import LaunchStub.Bytes

/-!
# Decimal numbers

Process ids, exit codes and error numbers are written in decimal: no leading zero, no plus sign, a
minus sign in front of a negative number. `Decimal.nat_injective` and `Decimal.int_injective` are
what makes the written form tell numbers apart.
-/

namespace LaunchStub.Decimal

/-- The digits of a natural number, most significant first. -/
def digits (n : Nat) : List Char := Nat.toDigits 10 n

/-- A natural number in decimal. -/
def nat (n : Nat) : String := String.ofList (digits n)

/-- An integer in decimal, a minus sign first if it is negative. -/
def int : Int → String
  | .ofNat n => nat n
  | .negSucc n => "-" ++ nat (n + 1)

/-- Different numbers have different digits. -/
theorem digits_injective {m n : Nat} (h : digits m = digits n) : m = n := by
  have := congrArg (fun cs => Nat.ofDigitChars 10 cs 0) h
  simpa [digits, Nat.ofDigitChars_toDigits] using this

/-- Different numbers have different decimal forms. -/
theorem nat_injective {m n : Nat} (h : nat m = nat n) : m = n :=
  digits_injective (by simpa [nat] using congrArg String.toList h)

/-- No natural number is written with a sign. -/
theorem nat_ne_signed (m : Nat) (s : String) : nat m ≠ "-" ++ s := by
  intro h
  have hsign : '-' ∈ (nat m).toList := by
    rw [h, String.toList_append]
    exact List.mem_append_left _ (by decide)
  rw [nat, String.toList_ofList] at hsign
  exact absurd (Nat.isDigit_of_mem_toDigits (by decide) (by decide) hsign) (by decide)

/-- Different integers have different decimal forms. -/
theorem int_injective {m n : Int} (h : int m = int n) : m = n := by
  cases m with
  | ofNat m =>
    cases n with
    | ofNat n => rw [nat_injective h]
    | negSucc n => exact absurd h (nat_ne_signed m _)
  | negSucc m =>
    cases n with
    | ofNat n => exact absurd h.symm (nat_ne_signed n _)
    | negSucc n =>
      have hsucc : m + 1 = n + 1 := nat_injective ((String.append_right_inj "-").mp h)
      rw [Nat.succ.inj hsucc]

end LaunchStub.Decimal
