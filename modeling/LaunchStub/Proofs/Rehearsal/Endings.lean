import LaunchStub.Proofs.Notification.Queues
import LaunchStub.Proofs.Rehearsal.Course

/-!
# Rehearsals in which nothing goes wrong

Without a fault the controller is told the process id and then the end of the target, and that end
depends on two things alone: the status word and the way in which the target is awaited. The two
ways differ in what they make of a signal and of a status that tells of no end at all; an exit is
told alike.

## The model

The rule is said in arithmetic on the status word, read as a number: its remainder by 128 is the
kind of end, and its second octet the exit code (`WaitStatus.told`). What a session passes on is
said without any bound on its size (`WaitStatus.passedOn`), so that the sixteen bits which an
element has for it are seen to suffice.

The bit above the kind tells of a core dump. It is a bit of no account wherever there is an end to
tell of. A word that tells of none has no such bit: a direct wait passes it on as the number it is.
-/

namespace LaunchStub

namespace WaitStatus

/-- The signals that count as faults of the program. -/
def faultSignals : List Nat := [4, 5, 6, 7, 8, 11, 31]

/-- The result that a session passes on: the exit code, or 128 and the signal, or zero. -/
def passedOn (s : WaitStatus) : Nat :=
  let kind := s.word.toNat % 128
  if kind = 0 then s.word.toNat / 256 % 256
  else if kind = 127 then 0
  else 128 + kind

/-- The word as a signed number. -/
def signed (s : WaitStatus) : Int :=
  if s.word.toNat < 0x80000000 then s.word.toNat else s.word.toNat - 0x100000000

/-- The end that the controller is told of. -/
def told (s : WaitStatus) : Strategy → String
  | .direct =>
    let kind := s.word.toNat % 128
    if kind = 0 then "exit " ++ Decimal.nat (s.word.toNat / 256 % 256)
    else if kind = 127 then "exit " ++ Decimal.int s.signed
    else if kind ∈ faultSignals then "crash 11"
    else "crash 9"
  | .session => "exit " ++ Decimal.nat s.passedOn

/-! ### The bits of a status -/

variable (s : WaitStatus)

theorem toNat_kind : s.kind.toNat = s.word.toNat % 128 := by
  rw [kind, UInt32.toNat_and]
  exact Nat.and_two_pow_sub_one_eq_mod _ 7

theorem kind_eq_zero_iff : s.kind = 0 ↔ s.word.toNat % 128 = 0 := by
  rw [← UInt32.toNat_inj, toNat_kind]
  rfl

theorem kind_eq_ones_iff : s.kind = 0x7f ↔ s.word.toNat % 128 = 127 := by
  rw [← UInt32.toNat_inj, toNat_kind]
  rfl

theorem toNat_code : ((s.word >>> 8) &&& 0xff).toUInt8.toNat = s.word.toNat / 256 % 256 := by
  have hmask : s.word.toNat / 256 % 256 &&& 255 = s.word.toNat / 256 % 256 % 256 :=
    Nat.and_two_pow_sub_one_eq_mod _ 8
  simpa [Nat.shiftRight_eq_div_pow] using hmask

theorem toInt_word : s.word.toInt32.toInt = s.signed := by
  have hword : s.word.toBitVec.toNat = s.word.toNat := rfl
  have hsigned : s.word.toInt32.toInt = s.word.toBitVec.toInt := rfl
  rw [hsigned, BitVec.toInt_eq_toNat_cond, hword, signed]
  split <;> split <;> omega

theorem exitCode?_of_exit (h : s.word.toNat % 128 = 0) :
    s.exitCode? = some ((s.word >>> 8) &&& 0xff).toUInt8 :=
  if_pos (s.kind_eq_zero_iff.mpr h)

theorem exitCode?_eq_none (h : s.word.toNat % 128 ≠ 0) : s.exitCode? = none :=
  if_neg (mt s.kind_eq_zero_iff.mp h)

theorem signal?_of_signal (h : s.word.toNat % 128 ≠ 0) (h' : s.word.toNat % 128 ≠ 127) :
    s.signal? = some (s.word.toNat % 128) := by
  rw [signal?, if_pos ⟨mt s.kind_eq_zero_iff.mp h, mt s.kind_eq_ones_iff.mp h'⟩, toNat_kind]

theorem signal?_eq_none (h : s.word.toNat % 128 = 127) : s.signal? = none :=
  if_neg fun hkind => hkind.2 (s.kind_eq_ones_iff.mpr h)

/-- Nothing of the result is lost in sixteen bits. -/
theorem toNat_sessionResult : s.sessionResult.toNat = s.passedOn := by
  rw [sessionResult, passedOn]
  by_cases hexit : s.word.toNat % 128 = 0
  · simp only [s.exitCode?_of_exit hexit, hexit, if_true]
    exact (UInt8.toNat_toUInt16 _).trans s.toNat_code
  · rw [s.exitCode?_eq_none hexit]
    by_cases hnone : s.word.toNat % 128 = 127
    · simp [s.signal?_eq_none hnone, hnone]
    · have hlt : 128 + s.word.toNat % 128 < 2 ^ 16 := by omega
      simp only [s.signal?_of_signal hexit hnone, hexit, hnone, if_false]
      exact UInt16.toNat_ofNat_of_lt' hlt

/-- Nothing of it is lost in the queue, whatever the session's id is. -/
theorem result_pack_sessionResult (pid : UInt32) :
    (Element.result (Element.pack s.sessionResult pid)).toNat = s.passedOn := by
  rw [Element.result_pack, toNat_sessionResult]

/-- A signal is told as a fault of the program or as force. -/
theorem classify_signaled (signal : Nat) : (RawTermination.signaled signal).classify =
    .crashed (if signal ∈ faultSignals then .fault else .killed) := by
  have htrap : (signal : Int) ∈ TerminationCause.trapSignals ∨
      (signal : Int) = TerminationCause.abortSignal ↔ signal ∈ faultSignals := by
    simp only [TerminationCause.trapSignals, TerminationCause.abortSignal, faultSignals,
      List.mem_cons, List.not_mem_nil, or_false]
    omega
  rw [RawTermination.signaled, RawTermination.classify, TerminationCause.ofSignal]
  by_cases h : (signal : Int) ∈ TerminationCause.trapSignals
  · rw [if_pos h, if_pos (htrap.mp (.inl h))]
  · by_cases h' : (signal : Int) = TerminationCause.abortSignal
    · rw [if_neg h, if_pos h', if_pos (htrap.mp (.inr h'))]
    · rw [if_neg h, if_neg h', if_neg fun hfault => (htrap.mpr hfault).elim h h']

/-- What is told of what was observed. -/
theorem text_observed (strategy : Strategy) (pid : UInt32) :
    (Message.ofOutcome (Rehearsal.observed strategy pid s).classify).text = s.told strategy := by
  cases strategy with
  | session =>
    rw [Rehearsal.observed, s.result_pack_sessionResult pid]
    rfl
  | direct =>
    rw [Rehearsal.observed, termination, told]
    by_cases hexit : s.word.toNat % 128 = 0
    · simp only [s.exitCode?_of_exit hexit, hexit, if_true]
      rw [← s.toNat_code]
      rfl
    · rw [s.exitCode?_eq_none hexit]
      by_cases hnone : s.word.toNat % 128 = 127
      · simp only [s.signal?_eq_none hnone, s.toInt_word, hnone, if_true]
        rfl
      · simp only [s.signal?_of_signal hexit hnone, classify_signaled, hexit, hnone, if_false]
        split <;> rfl

/-- The status with the bit for a core dump turned around. -/
def flipDump : WaitStatus := ⟨s.word ^^^ 0x80⟩

theorem toNat_flipDump : s.flipDump.word.toNat % 128 = s.word.toNat % 128 ∧
    s.flipDump.word.toNat / 256 = s.word.toNat / 256 := by
  have hword : s.flipDump.word.toNat = s.word.toNat ^^^ 2 ^ 7 := UInt32.toNat_xor s.word 0x80
  rw [hword]
  constructor
  · have hmod := Nat.xor_mod_two_pow (a := s.word.toNat) (b := 2 ^ 7) (n := 7)
    simpa using hmod
  · have hdiv := Nat.xor_div_two_pow (a := s.word.toNat) (b := 2 ^ 7) (n := 8)
    simpa using hdiv

theorem flipDump_ne : s.flipDump ≠ s := by
  intro h
  have hword : s.word ^^^ 0x80 = s.word ^^^ 0 :=
    (congrArg WaitStatus.word h).trans (UInt32.xor_zero).symm
  exact absurd ((UInt32.xor_right_inj s.word).mp hword) (by decide)

/-- The word is known by the signed number that it is. -/
theorem eq_of_signed {s t : WaitStatus} (h : s.signed = t.signed) : s = t := by
  have hword : s.word.toNat = t.word.toNat := by
    have hs := s.word.toNat_lt
    have ht := t.word.toNat_lt
    simp only [signed] at h
    split at h <;> split at h <;> omega
  exact congrArg WaitStatus.mk (UInt32.toNat_inj.mp hword)

/-- The bit for a core dump does not matter, except in a word that tells of no end and that a direct
wait passes on as it is. -/
theorem told_flipDump_iff {strategy : Strategy} :
    s.flipDump.told strategy = s.told strategy ↔
      strategy = .session ∨ s.word.toNat % 128 ≠ 127 := by
  obtain ⟨hkind, hcode⟩ := s.toNat_flipDump
  cases strategy with
  | session => simp only [told, passedOn, hkind, hcode, true_or]
  | direct =>
    by_cases hnone : s.word.toNat % 128 = 127
    · simp only [told, hkind, hnone, if_true]
      refine iff_of_false (fun h => s.flipDump_ne (eq_of_signed ?_)) (by simp)
      exact Decimal.int_injective ((String.append_right_inj _).mp h)
    · simp only [told, hkind, hcode, hnone, if_false]
      exact iff_of_true trivial (.inr hnone)

/-- An exit is told alike, however it was awaited. -/
theorem told_of_exit (h : s.word.toNat % 128 = 0) (strategy strategy' : Strategy) :
    s.told strategy = s.told strategy' := by
  cases strategy <;> cases strategy' <;> simp only [told, passedOn, h, if_true]

end WaitStatus

namespace Rehearsal

/-- A rehearsal in which nothing goes wrong. -/
def faultless (content : Bytes) (env : Environment) (pid : UInt32) (s : WaitStatus) : Rehearsal :=
  ⟨⟨env, none⟩, content, pid, s, {}⟩

/-- What the controller is told in a rehearsal of this kind, line by line. -/
def linesTold (content : Bytes) (env : Environment) (inv : Invocation) (pid : UInt32)
    (s : WaitStatus) (removal : Removal := .firstOccurrence) : List String :=
  ((faultless content env pid s).perform none inv removal).sent.map Message.text

variable {content : Bytes} {type : AppType}

theorem course_faultless (htype : AppType.classify content = .ok type) (env : Environment)
    (pid : UInt32) (s : WaitStatus) (removal : Removal) :
    (faultless content env pid s).course none removal =
      .ended ((faultless content env pid s).preparation removal type) pid
        (observed type.strategy pid s) (.ok ()) := by
  have hfound : (faultless content env pid s).type = .ok type := htype
  have hlaunched : (faultless content env pid s).launched type.strategy =
      .ok ⟨type.strategy, pid⟩ := by
    cases type <;> rfl
  rw [course_of_child rfl hfound hlaunched]
  rfl

theorem linesTold_eq (htype : AppType.classify content = .ok type) (env : Environment)
    (inv : Invocation) (pid : UInt32) (s : WaitStatus) (removal : Removal) :
    linesTold content env inv pid s removal =
      ["pid " ++ Decimal.nat pid.toNat, s.told type.strategy] := by
  rw [linesTold, perform_eq, course_faultless htype, ← s.text_observed type.strategy pid]
  rfl

/-- **What comes of a rehearsal in which nothing goes wrong**: it is completed, and the controller
is told the process id and the end that the rule says, for every status, process id, target of a
known kind and environment, whichever occurrences of a variable go when it is removed. So an exit is
told alike for all targets; what a session passes on is not changed by having sixteen bits in a
queue element, whatever the id beside it; the process id does not matter; and neither does the bit
for a core dump, but for one case: a status that tells of no end is passed on by a direct wait as
the number it is, with this bit in it. -/
theorem perform_faultless (htype : AppType.classify content = .ok type) (env : Environment)
    (inv : Invocation) (pid : UInt32) (s : WaitStatus) (removal : Removal) :
    ((faultless content env pid s).perform none inv removal).exits = [.completed] ∧
      linesTold content env inv pid s removal =
        ["pid " ++ Decimal.nat pid.toNat, s.told type.strategy] ∧
      (s.word.toNat % 128 = 0 → ∀ content' type', AppType.classify content' = .ok type' →
        linesTold content' env inv pid s removal = linesTold content env inv pid s removal) ∧
      (Element.result (Element.pack s.sessionResult pid)).toNat = s.passedOn ∧
      (linesTold content env inv pid s.flipDump removal = linesTold content env inv pid s removal ↔
        type.strategy = .session ∨ s.word.toNat % 128 ≠ 127) ∧
      ∀ pid', (linesTold content env inv pid' s removal).tail =
        (linesTold content env inv pid s removal).tail := by
  refine ⟨?_, linesTold_eq htype env inv pid s removal, ?_, s.result_pack_sessionResult pid, ?_,
    ?_⟩
  · rw [perform_eq, course_faultless htype]
    rfl
  · intro hexit content' type' htype'
    rw [linesTold_eq htype', linesTold_eq htype, s.told_of_exit hexit]
  · rw [linesTold_eq htype, linesTold_eq htype, ← s.told_flipDump_iff, List.cons.injEq,
      List.cons.injEq]
    simp only [true_and, and_true]
  · intro pid'
    rw [linesTold_eq htype, linesTold_eq htype]
    rfl

/-- The header of a native image for this machine. -/
def nativeImage : Bytes := AppType.imageMark ++ List.replicate 14 0 ++ [62, 0]

/-- A native image that a bad memory access ends, with a core dump. -/
theorem perform_faultless_crash :
    AppType.classify nativeImage = .ok .console ∧
      linesTold nativeImage [] ⟨.run, [], [], [], [], []⟩ 7 ⟨0x8b⟩ = ["pid 7", "crash 11"] := by
  have htype : AppType.classify nativeImage = .ok .console := by decide
  have htold :=
    (perform_faultless htype [] ⟨.run, [], [], [], [], []⟩ 7 ⟨0x8b⟩ .firstOccurrence).2.1
  exact ⟨htype, htold.trans (by decide)⟩

/-- **The bit for a core dump is not always without influence**: of the two words that tell of no
end and have no bits above this one, a direct wait tells one as 127 and the other as 255. -/
theorem not_linesTold_flipDump :
    ¬ ∀ (content : Bytes) (type : AppType) (env : Environment) (inv : Invocation) (pid : UInt32)
        (s : WaitStatus), AppType.classify content = .ok type →
      linesTold content env inv pid s.flipDump = linesTold content env inv pid s := by
  intro h
  have hsame := h nativeImage .console [] ⟨.run, [], [], [], [], []⟩ 7 ⟨0x7f⟩ (by decide)
  have hexit : linesTold nativeImage [] ⟨.run, [], [], [], [], []⟩ 7 ⟨0x7f⟩ =
      ["pid 7", "exit 127"] := by decide
  have hflipped : linesTold nativeImage [] ⟨.run, [], [], [], [], []⟩ 7
      (WaitStatus.flipDump ⟨0x7f⟩) = ["pid 7", "exit 255"] := by decide
  rw [hexit, hflipped] at hsame
  exact absurd hsame (by decide)

end Rehearsal

end LaunchStub
