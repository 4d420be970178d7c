import LaunchStub.Text.Decimal

/-!
# Runs and texts

Two things are needed wherever bytes are read back: what splitting at a separator makes of bytes
that were put together with it, and which octets the texts of this library consist of.

## What is proved

* `splitAt_append_cons`, `splitAt_of_not_mem` — splitting goes through an append at a separator,
  and leaves a string without one in one piece. `splitAt_intercalate` is the form for strings joined
  by the separator, and `splitAt_lines` the one for lines: what is behind the last line feed is a
  run of its own.
* `ofText_injective` — different texts have different bytes.
* `isDigit_of_mem_ofText_nat` — the bytes of a decimal number are digits, so no separator of a
  line or of a path is among them.
-/

namespace LaunchStub.Bytes

/-! ### Splitting -/

theorem splitAt_cons_self (separator : UInt8) (s : Bytes) :
    splitAt separator (separator :: s) = [] :: splitAt separator s := by
  rw [splitAt, if_pos rfl]

/-- An octet that is no separator goes to the front of the first run. -/
theorem splitAt_cons_of_ne {separator b : UInt8} (h : b ≠ separator) {s run : Bytes}
    {runs : List Bytes} (hs : splitAt separator s = run :: runs) :
    splitAt separator (b :: s) = (b :: run) :: runs := by
  rw [splitAt, if_neg h, hs]

/-- At a separator the two sides are split on their own. -/
theorem splitAt_append_cons (separator : UInt8) (s t : Bytes) :
    splitAt separator (s ++ separator :: t) = splitAt separator s ++ splitAt separator t := by
  induction s with
  | nil => exact splitAt_cons_self separator t
  | cons b s ih =>
    by_cases hb : b = separator
    · subst hb
      rw [List.cons_append, splitAt_cons_self, splitAt_cons_self, ih, List.cons_append]
    · obtain ⟨run, runs, hs⟩ := List.exists_cons_of_ne_nil (splitAt_ne_nil separator s)
      rw [hs, List.cons_append] at ih
      rw [List.cons_append, splitAt_cons_of_ne hb ih, splitAt_cons_of_ne hb hs, List.cons_append]

/-- Strings that are joined by the separator are each split on their own, whether or not the
separator is in them too. -/
theorem splitAt_intercalate {separator : UInt8} {parts : List Bytes} (h : parts ≠ []) :
    splitAt separator ([separator].intercalate parts) = parts.flatMap (splitAt separator) := by
  induction parts with
  | nil => contradiction
  | cons part rest ih =>
    cases rest with
    | nil => simp [List.intercalate]
    | cons next rest =>
      have hjoin : [separator].intercalate (part :: next :: rest) =
          part ++ separator :: [separator].intercalate (next :: rest) := by
        simp [List.intercalate]
      rw [hjoin, splitAt_append_cons, ih (List.cons_ne_nil next rest)]
      exact List.flatMap_cons.symm

/-- Without a separator there is nothing to split. -/
theorem splitAt_of_not_mem {separator : UInt8} {s : Bytes} (h : separator ∉ s) :
    splitAt separator s = [s] := by
  induction s with
  | nil => rfl
  | cons b s ih =>
    rw [List.mem_cons, not_or] at h
    exact splitAt_cons_of_ne (Ne.symm h.1) (ih h.2)

/-- Runs that are each ended by a separator, and what comes behind the last one, are split back
into the same runs and the same rest. -/
theorem splitAt_lines {separator : UInt8} {runs : List Bytes} {rest : Bytes}
    (hruns : ∀ run ∈ runs, separator ∉ run) (hrest : separator ∉ rest) :
    splitAt separator (runs.flatMap (fun run => run ++ [separator]) ++ rest) = runs ++ [rest] := by
  induction runs with
  | nil => exact splitAt_of_not_mem hrest
  | cons run runs ih =>
    have hrun := splitAt_of_not_mem (hruns run List.mem_cons_self)
    have htail := ih fun other hother => hruns other (List.mem_cons_of_mem run hother)
    rw [List.flatMap_cons, List.append_assoc, List.append_assoc, List.singleton_append,
      splitAt_append_cons, hrun, htail]
    rfl

/-! ### Texts -/

/-- Different texts have different bytes. -/
theorem ofText_injective : Function.Injective ofText := by
  intro s t h
  rw [← String.toByteArray_inj, ← String.utf8Encode_toList, ← String.utf8Encode_toList,
    List.utf8Encode, List.utf8Encode]
  exact congrArg List.toByteArray h

/-- The bytes of a decimal number are digits. -/
theorem isDigit_of_mem_ofText_nat {n : Nat} {b : UInt8} (h : b ∈ ofText (Decimal.nat n)) :
    48 ≤ b.toNat ∧ b.toNat ≤ 57 := by
  simp only [ofText, Decimal.nat, String.toList_ofList, List.mem_flatMap] at h
  obtain ⟨c, hc, h⟩ := h
  have hdigit := Nat.isDigit_of_mem_toDigits (by decide) (by decide) hc
  simp only [Char.isDigit, Bool.and_eq_true, decide_eq_true_eq] at hdigit
  have hlow : 48 ≤ c.val.toNat := hdigit.1
  have hhigh : c.val.toNat ≤ 57 := hdigit.2
  -- A digit is encoded as one octet.
  have hascii : c.val ≤ 127 := UInt32.le_iff_toNat_le.mpr (Nat.le_trans hhigh (by decide))
  rw [String.utf8EncodeChar_eq_singleton (Char.utf8Size_eq_one_iff.mpr hascii),
    List.mem_singleton] at h
  have hcode : b.toNat = c.val.toNat % 256 := congrArg UInt8.toNat h
  omega

/-- An octet that is neither a digit nor a minus sign is in no decimal number. -/
theorem not_mem_ofText_int {b : UInt8} (hdigit : ¬ (48 ≤ b.toNat ∧ b.toNat ≤ 57)) (hsign : b ≠ 45)
    (n : Int) : b ∉ ofText (Decimal.int n) := by
  have hnat : ∀ n, b ∉ ofText (Decimal.nat n) := fun n hb => hdigit (isDigit_of_mem_ofText_nat hb)
  cases n with
  | ofNat n => exact hnat n
  | negSucc n =>
    rw [Decimal.int, ofText_append, List.mem_append, not_or]
    refine ⟨fun hb => hsign ?_, hnat (n + 1)⟩
    rwa [show ofText "-" = [45] from rfl, List.mem_singleton] at hb

end LaunchStub.Bytes
