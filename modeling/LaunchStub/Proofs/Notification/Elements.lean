import LaunchStub.Notification.Queue
import Mathlib.Data.Nat.Digits.Defs

/-!
# What an element tells

An element holds a result in full, and of a session's id the low sixteen bits. Read as a number it
is the result times 65536 and the remainder of the id by 65536. So neither part gets into the other,
two elements are the same exactly if both of their parts are, and an element is put together again
from its result and any id of the same remainder, its own number among them.

## The model

`Element.Lossless` says this of elements that are passed on in some way, by what is met at the other
end. Handing an element over as it is is one such way (`QueueRead.element`), and a queue is another.
On their way through a queue the elements are octets: the digits of the number to the base 256, the
least significant one first.

## What is proved

* `Bytes.word?_ofWord`, `Bytes.ofDigits_ofWord` — the octets of a word, read back and as digits.
* `Element.toNat_pack`, `Element.toNat_result` — packing, and taking the result out, as arithmetic.
* `Element.result_pack`, `Element.pack_result`, `Element.pack_eq_iff` — an element holds its two
  parts and nothing else.
-/

namespace LaunchStub

/-! ### The octets of a word -/

/-- The four octets of a word spell it. -/
theorem Bytes.word?_ofWord (word : UInt32) : word? (ofWord word) = some word := by
  rw [ofWord, word?, Option.some.injEq, ← UInt32.toBitVec_inj]
  refine BitVec.eq_of_getLsbD_eq fun i hi => ?_
  simp only [UInt32.toBitVec_or, UInt32.toBitVec_shiftLeft, UInt8.toBitVec_toUInt32,
    UInt32.toBitVec_toUInt8, UInt32.toBitVec_shiftRight, BitVec.getLsbD_or]
  -- Bit `i` of the word is bit `i - 8 * k` of octet `k`, and the other octets have none there.
  obtain h | ⟨h, h'⟩ | ⟨h, h'⟩ | h :
      i < 8 ∨ (8 ≤ i ∧ i < 16) ∨ (16 ≤ i ∧ i < 24) ∨ 24 ≤ i := by omega
  · simp [hi, h, show i < 16 by omega, show i < 24 by omega]
  · simp [hi, h', show ¬ i < 8 by omega, show i < 24 by omega, show i - 8 < 8 by omega,
      show i - 8 < 32 by omega, Nat.add_sub_cancel' h]
  · simp [hi, h', show ¬ i < 8 by omega, show ¬ i < 16 by omega, show ¬ i - 8 < 8 by omega,
      show i - 16 < 8 by omega, show i - 16 < 32 by omega, Nat.add_sub_cancel' h]
  · simp [hi, show ¬ i < 8 by omega, show ¬ i < 16 by omega, show ¬ i < 24 by omega,
      show ¬ i - 8 < 8 by omega, show ¬ i - 16 < 8 by omega, show i - 24 < 8 by omega,
      show i - 24 < 32 by omega, Nat.add_sub_cancel' h]

/-- The octets of a word are its digits to the base 256, the least significant one first. -/
theorem Bytes.ofDigits_ofWord (word : UInt32) :
    Nat.ofDigits 256 ((ofWord word).map UInt8.toNat) = word.toNat := by
  have hlt : word.toNat < 4294967296 := word.toNat_lt
  simp only [ofWord, List.map_cons, List.map_nil, Nat.ofDigits_cons, Nat.ofDigits_nil,
    UInt32.toNat_toUInt8, UInt32.toNat_shiftRight, Nat.shiftRight_eq_div_pow,
    UInt32.reduceToNat, Nat.reduceMod, Nat.reducePow]
  omega

namespace Element

/-! ### Packing as arithmetic -/

theorem toNat_pack (result : UInt16) (session : UInt32) :
    (pack result session).toNat = result.toNat * 65536 + session.toNat % 65536 := by
  have hhigh : (result.toUInt32 <<< 16).toNat = result.toNat <<< 16 := by
    have hlt : result.toNat < 65536 := result.toNat_lt
    simp only [UInt32.toNat_shiftLeft, UInt16.toNat_toUInt32, Nat.shiftLeft_eq,
      UInt32.reduceToNat, Nat.reduceMod, Nat.reducePow]
    omega
  have hlow : (session &&& 0xffff).toNat = session.toNat % 65536 := by
    rw [UInt32.toNat_and]
    exact Nat.and_two_pow_sub_one_eq_mod _ 16
  -- The low part fits into the sixteen bits that the shift has freed.
  have hfits : session.toNat % 65536 < 2 ^ 16 := Nat.mod_lt _ (by decide)
  rw [pack, UInt32.toNat_or, hhigh, hlow, ← Nat.shiftLeft_add_eq_or_of_lt hfits, Nat.shiftLeft_eq]

theorem toNat_result (element : UInt32) : (result element).toNat = element.toNat / 65536 := by
  have hlt : element.toNat < 4294967296 := element.toNat_lt
  simp only [result, UInt32.toNat_toUInt16, UInt32.toNat_shiftRight, Nat.shiftRight_eq_div_pow,
    UInt32.reduceToNat, Nat.reduceMod, Nat.reducePow]
  omega

/-- The result of an element is the one it was packed with, whatever the session. -/
theorem result_pack (result : UInt16) (session : UInt32) :
    Element.result (pack result session) = result := by
  apply UInt16.toNat_inj.mp
  rw [toNat_result, toNat_pack]
  omega

/-- What an element holds of a session's id is its remainder, whatever the result. -/
theorem toNat_pack_mod (result : UInt16) (session : UInt32) :
    (pack result session).toNat % 65536 = session.toNat % 65536 := by
  rw [toNat_pack]
  omega

/-- An element is put together from its own result and, for an id, itself. -/
theorem pack_result (element : UInt32) : pack (result element) element = element := by
  apply UInt32.toNat_inj.mp
  rw [toNat_pack, toNat_result]
  omega

/-- Two elements are the same exactly if both of their parts are. -/
theorem pack_eq_iff {result result' : UInt16} {session session' : UInt32} :
    pack result session = pack result' session' ↔
      result = result' ∧ session.toNat % 65536 = session'.toNat % 65536 := by
  rw [← UInt32.toNat_inj, ← UInt16.toNat_inj, toNat_pack, toNat_pack]
  omega

/-! ### Passing elements on -/

/-- Nothing that an element tells is lost where it is passed on. -/
structure Lossless (passed : UInt32 → QueueRead) : Prop where
  /-- The result that was packed arrives, and the remainder of the session's id. -/
  parts (result : UInt16) (session : UInt32) : ∃ element,
    passed (pack result session) = .element element ∧ Element.result element = result ∧
      element.toNat % 65536 = session.toNat % 65536
  /-- Any element is put together again from what arrives of it. -/
  whole (element : UInt32) : ∃ arrived, passed element = .element arrived ∧
    pack (Element.result arrived) arrived = element
  /-- Of two elements the same arrives exactly if both of their parts are the same. -/
  same_iff (result result' : UInt16) (session session' : UInt32) :
    passed (pack result session) = passed (pack result' session') ↔
      result = result' ∧ session.toNat % 65536 = session'.toNat % 65536

/-- Where every element arrives nothing that it tells is lost. -/
theorem lossless_of_arrives {passed : UInt32 → QueueRead}
    (h : ∀ element, passed element = .element element) : Lossless passed where
  parts result session := ⟨_, h _, result_pack result session, toNat_pack_mod result session⟩
  whole element := ⟨element, h element, pack_result element⟩
  same_iff result result' session session' := by
    rw [h, h, QueueRead.element.injEq]
    exact pack_eq_iff

end Element

end LaunchStub
