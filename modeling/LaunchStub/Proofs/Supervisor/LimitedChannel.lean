import LaunchStub.Proofs.Supervisor.Course
import LaunchStub.Transcript

/-!
# Channels with a limit

A channel that takes only so many messages takes the first ones that are sent, however the sending
is divided up: a refused message leaves no room for a later one (`LimitedChannel.after_append`).
-/

namespace LaunchStub

namespace LimitedChannel

/-- What a channel still takes of messages that are sent one after the other. -/
def takes (channel : LimitedChannel) (messages : List Message) : List Message :=
  channel.limit.elim messages fun n => messages.take (n - channel.accepted.length)

/-- The channel after that. -/
def after (channel : LimitedChannel) (messages : List Message) : LimitedChannel :=
  { channel with accepted := channel.accepted ++ channel.takes messages }

@[simp] theorem takes_nil (channel : LimitedChannel) : channel.takes [] = [] := by
  cases h : channel.limit <;> simp [takes, h]

@[simp] theorem after_nil (channel : LimitedChannel) : channel.after [] = channel := by
  rw [after, takes_nil, List.append_nil]

/-- Of two lists the second is taken as far as the first leaves room. -/
theorem takes_append (channel : LimitedChannel) (first second : List Message) :
    channel.takes (first ++ second)
      = channel.takes first ++ (channel.after first).takes second := by
  cases h : channel.limit with
  | none => simp [takes, after, h]
  | some n =>
    have hroom : n - channel.accepted.length - first.length
        = n - (channel.accepted.length + min (n - channel.accepted.length) first.length) := by
      omega
    simp [takes, after, h, List.take_append, hroom]

theorem after_append (channel : LimitedChannel) (first second : List Message) :
    channel.after (first ++ second) = (channel.after first).after second := by
  rw [after, takes_append, ← List.append_assoc]
  rfl

/-- A full channel takes nothing. -/
theorem takes_of_isFull {channel : LimitedChannel} (h : channel.isFull) (messages : List Message) :
    channel.takes messages = [] := by
  cases hlimit : channel.limit with
  | none => simp [isFull, hlimit] at h
  | some n =>
    have hroom : n - channel.accepted.length = 0 := by
      simpa [isFull, hlimit, Nat.sub_eq_zero_iff_le] using h
    simp [takes, hlimit, hroom]

/-- A channel that is not full takes at least one message. -/
theorem takes_singleton_of_not_isFull {channel : LimitedChannel} (h : channel.isFull = false)
    (message : Message) : channel.takes [message] = [message] := by
  cases hlimit : channel.limit with
  | none => simp [takes, hlimit]
  | some n =>
    obtain ⟨room, hroom⟩ : ∃ room, n - channel.accepted.length = room + 1 := by
      have hlt : channel.accepted.length < n := by simpa [isFull, hlimit] using h
      exact ⟨n - channel.accepted.length - 1, by omega⟩
    simp [takes, hlimit, hroom]

/-- What a fresh channel takes of a report after others. -/
theorem takes_after_fresh (limit : Option Nat) (before report : List Message) :
    ((⟨limit, []⟩ : LimitedChannel).after before).takes report
      = limit.elim report fun n => report.take (n - before.length) := by
  cases limit with
  | none => rfl
  | some n =>
    have hroom : n - min n before.length = n - before.length := by omega
    simp [takes, after, hroom]

/-- The channel refuses a message exactly if it is full. -/
theorem answer_send_eq_ok_iff (channel : LimitedChannel) (message : Message) :
    (send message channel).answer = .ok () ↔ channel.isFull = false := by
  rw [send]
  split <;> simp_all

theorem isFull_of_answer_send {channel : LimitedChannel} {message : Message} {e : ChannelError}
    (h : (send message channel).answer = .error e) : channel.isFull := by
  cases hfull : channel.isFull with
  | true => rfl
  | false =>
    rw [(answer_send_eq_ok_iff channel message).mpr hfull] at h
    cases h

theorem state_send (channel : LimitedChannel) (message : Message) :
    (send message channel).state = channel.after [message] := by
  cases h : channel.isFull with
  | true => simp [send, after, h, takes_of_isFull h]
  | false => simp [send, after, h, takes_singleton_of_not_isFull h]

/-- What is taken of a single message, by what the sender is answered. -/
theorem takes_singleton (channel : LimitedChannel) (message : Message) :
    channel.takes [message] = if (send message channel).answer = .ok () then [message] else [] := by
  cases h : channel.isFull with
  | true => simp [takes_of_isFull h, answer_send_eq_ok_iff, h]
  | false => simp [takes_singleton_of_not_isFull h, answer_send_eq_ok_iff, h]

/-- What a channel with this limit answers to a message, by how many it has accepted before. -/
def answerAt (limit : Option Nat) (count : Nat) : Except ChannelError Unit :=
  if limit.any (· ≤ count) then .error (.write (.bare .brokenPipe)) else .ok ()

theorem answer_send (channel : LimitedChannel) (message : Message) :
    (send message channel).answer = answerAt channel.limit channel.accepted.length := by
  rw [send, answerAt, isFull]
  split <;> rfl

end LimitedChannel

namespace Supervisor

variable {σ κ ω : Type}

/-- One deed adds the message that is accepted by it. -/
theorem channel_of_does {host : Host σ κ} {stderr : Writer ω} {c c' : Scene σ κ LimitedChannel ω}
    {deed : Deed} (h : Does ⟨host, LimitedChannel.device, stderr⟩ c deed c') :
    c'.channel = { c.channel with accepted := c.channel.accepted ++ deed.accepted?.toList } := by
  cases deed with
  | sent message answer =>
    obtain ⟨hanswer, rfl⟩ := h
    replace hanswer : (LimitedChannel.send message c.channel).answer = answer := hanswer
    simp only [LimitedChannel.device]
    rw [LimitedChannel.send] at hanswer ⊢
    split at hanswer <;> subst hanswer <;> simp [Deed.accepted?, *]
  | _ => simpa [Deed.accepted?] using h.frame.1

/-- A limited channel has accepted what the trace says it has, and its limit stays. -/
theorem channel_of_performs {host : Host σ κ} {stderr : Writer ω}
    {c c' : Scene σ κ LimitedChannel ω} {t : Trace}
    (h : Performs ⟨host, LimitedChannel.device, stderr⟩ c t c') :
    c'.channel = { c.channel with accepted := c.channel.accepted ++ t.accepted } := by
  induction t generalizing c with
  | nil =>
    obtain rfl := h
    simp
  | cons deed t ih =>
    obtain ⟨m, hdeed, ht⟩ := h
    rw [ih ht, channel_of_does hdeed]
    simp

/-- What telling the controller does to a limited channel. -/
theorem performs_telling {host : Host σ κ} {stderr : Writer ω}
    {c c' : Scene σ κ LimitedChannel ω} {message : Message} {told : Except ChannelError Unit}
    (h : Performs ⟨host, LimitedChannel.device, stderr⟩ c (Trace.telling message told) c') :
    c'.host = c.host ∧ c'.child = c.child ∧ c'.channel = c.channel.after [message] ∧
      (if told = .ok () then [message] else []) = c.channel.takes [message] := by
  rw [LimitedChannel.takes_singleton]
  cases told with
  | ok _ =>
    obtain ⟨m, ⟨hanswer, rfl⟩, rfl⟩ := h
    exact ⟨rfl, rfl, LimitedChannel.state_send _ _, by rw [← hanswer]; rfl⟩
  | error e =>
    obtain ⟨m, ⟨hanswer, rfl⟩, m', rfl, rfl⟩ := h
    exact ⟨rfl, rfl, LimitedChannel.state_send _ _, by rw [← hanswer]; rfl⟩

end Supervisor

end LaunchStub
