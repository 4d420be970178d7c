import LaunchStub.Machine
import Mathlib.Data.Nat.Digits.Defs

/-!
# The kind of a content

A target is read no further than its header, and yet is of the kind that all of its content is of:
nothing behind the header counts, and within it seven octets do.

## The model

`Content` is what can be read from a target. Most contents come to an end, but a device may give
octets without one; then all that can be said of the whole is said of as much of it as anybody cares
to read. `AppType.classify` is held against the marks and the machine number as an image spells it,
with the more significant octet first or last.

## What is proved

* `classify_congr` — the octets that count, and whether the header is complete, decide the kind.
* `classify_take`, `classify_append_of_ok` — less is read than there is, and more may follow.
* `queryType_classifies` — what the machine says of a target.
-/

namespace LaunchStub

/-! ### Contents -/

/-- What can be read from a target. -/
inductive Content where
  /-- These octets and no more. -/
  | upTo (octets : Bytes)
  /-- One octet after the other, without end. -/
  | endless (octet : Nat → UInt8)

namespace Content

/-- The first octets, as many as asked for or as there are. -/
def start : Content → Nat → Bytes
  | .upTo octets, count => octets.take count
  | .endless octet, count => (List.range count).map octet

/-- Are these octets the whole content or, if there is no whole, a header's worth of it or more? -/
def Shows (octets : Bytes) : Content → Prop
  | .upTo all => octets = all
  | .endless octet => ∃ count, AppType.headerLength ≤ count ∧ octets = (List.range count).map octet

/-- Reading a header is reading the start of what is shown. -/
theorem Shows.start_eq {content : Content} {octets : Bytes} (h : content.Shows octets) :
    content.start AppType.headerLength = octets.take AppType.headerLength := by
  cases content with
  | upTo all =>
    rw [show octets = all from h]
    rfl
  | endless octet =>
    obtain ⟨count, hcount, rfl⟩ := h
    rw [start, ← List.map_take, List.take_range, Nat.min_eq_left hcount]

end Content

/-- What can be read from what stands at a place, if it can be read at all. -/
def Node.content? : Node → Option Content
  | .file content _ => some (.upTo content)
  | .device octet => some (.endless octet)
  | .null => some (.upTo [])
  | .directory | .socket | .pipe => none

theorem FileSystem.readStart_of_content {fs : FileSystem} {path : Bytes} {place : Place}
    {node : Node} {content : Content} (hpath : fs.resolve path = .ok place)
    (hnode : fs.nodeAt? place = some node) (hcontent : node.content? = some content)
    (count : Nat) : fs.readStart path count = .ok (content.start count) := by
  simp only [readStart, hpath, hnode]
  cases node with
  | file octets executable =>
    obtain rfl := Option.some.inj hcontent
    rfl
  | device octet =>
    obtain rfl := Option.some.inj hcontent
    rfl
  | null =>
    obtain rfl := Option.some.inj hcontent
    rw [Content.start, List.take_nil]
  | directory | socket | pipe => cases hcontent

namespace AppType

variable {octets other : Bytes}

/-! ### The octets that count -/

/-- The places of the octets that count: the marks, the byte order, the machine number. -/
def decidingPlaces : List Nat := [0, 1, 2, 3, 5, 18, 19]

/-- A mark is found or not by the octets at its places. -/
theorem isPrefixOf_congr {mark : Bytes} (h : ∀ i < mark.length, octets[i]? = other[i]?) :
    mark.isPrefixOf octets = mark.isPrefixOf other := by
  rw [Bool.eq_iff_iff, List.isPrefixOf_iff_prefix, List.isPrefixOf_iff_prefix,
    List.prefix_iff_getElem?, List.prefix_iff_getElem?]
  exact forall₂_congr fun i hi => by rw [h i hi]

theorem machine_congr (h : ∀ i ∈ decidingPlaces, octets[i]? = other[i]?) :
    machine octets = machine other := by
  simp only [machine, List.getD_eq_getElem?_getD, h 5 (by decide), h 18 (by decide),
    h 19 (by decide)]

/-- Two contents with the same octets at the places that count, both of them long enough for a
header or neither, are of one kind. -/
theorem classify_congr (hlength : headerLength ≤ octets.length ↔ headerLength ≤ other.length)
    (h : ∀ i ∈ decidingPlaces, octets[i]? = other[i]?) : classify octets = classify other := by
  have hscript : scriptMark.isPrefixOf octets = scriptMark.isPrefixOf other :=
    isPrefixOf_congr fun i hi => h i (by revert i; decide)
  have himage : imageMark.isPrefixOf octets = imageMark.isPrefixOf other :=
    isPrefixOf_congr fun i hi => h i (by revert i; decide)
  simp only [classify, hscript, himage, hlength, machine_congr h]

/-- No more is read than a header. -/
theorem classify_take (octets : Bytes) :
    classify (octets.take headerLength) = classify octets := by
  refine classify_congr (by simp) fun i hi => List.getElem?_take_of_lt ?_
  revert i
  decide

/-! ### The kinds -/

/-- Does a content start as an image does, and is its header complete? -/
def IsImage (octets : Bytes) : Prop := 0x7f :: Bytes.ofText "ELF" <+: octets ∧ 20 ≤ octets.length

/-- The number that octets spell, the less significant ones first. -/
def littleEndian (octets : Bytes) : Nat := Nat.ofDigits 256 (octets.map UInt8.toNat)

/-- The number that octets spell, the more significant ones first. -/
def bigEndian (octets : Bytes) : Nat := littleEndian octets.reverse

/-- The machine number that an image spells in its order of octets, which is told by another octet.
-/
def machineNumber (octets : Bytes) : Nat :=
  let field := (octets.drop 18).take 2
  if octets[5]? = some 2 then bigEndian field else littleEndian field

theorem machine_eq (h : 20 ≤ octets.length) : machine octets = machineNumber octets := by
  have hfield : (octets.drop 18).take 2 = [octets[18], octets[19]] := by
    rw [List.drop_eq_getElem_cons (by omega), List.drop_eq_getElem_cons (by omega)]
    rfl
  have hget : ∀ i (hi : i < octets.length), octets.getD i 0 = octets[i] := by
    intro i hi
    rw [List.getD_eq_getElem?_getD, List.getElem?_eq_getElem hi, Option.getD_some]
  have horder : octets[5]? = some 2 ↔ octets.getD 5 0 = 2 := by
    rw [hget 5 (by omega), List.getElem?_eq_getElem (by omega), Option.some.injEq]
  simp only [machine, machineNumber, hfield, horder, hget 18 (by omega), hget 19 (by omega)]
  split
  · simp [bigEndian, littleEndian, Nat.ofDigits_cons]
    omega
  · simp [littleEndian, Nat.ofDigits_cons]
    omega

theorem isPrefixOf_scriptMark :
    scriptMark.isPrefixOf octets = true ↔ Bytes.ofText "#!" <+: octets := by
  rw [List.isPrefixOf_iff_prefix, show scriptMark = Bytes.ofText "#!" by decide]

theorem isImage_iff :
    IsImage octets ↔ imageMark.isPrefixOf octets = true ∧ headerLength ≤ octets.length := by
  rw [List.isPrefixOf_iff_prefix, show imageMark = 0x7f :: Bytes.ofText "ELF" by decide]
  rfl

theorem classify_of_script (h : Bytes.ofText "#!" <+: octets) : classify octets = .ok .script := by
  rw [classify, if_pos (isPrefixOf_scriptMark.mpr h)]

theorem classify_of_image (hscript : ¬ Bytes.ofText "#!" <+: octets) (himage : IsImage octets) :
    classify octets = .ok (if machineNumber octets = 62 then .console else .foreign) := by
  rw [classify, if_neg (mt isPrefixOf_scriptMark.mp hscript), if_pos (isImage_iff.mp himage),
    machine_eq himage.2, hostMachine]

theorem classify_of_neither (hscript : ¬ Bytes.ofText "#!" <+: octets) (himage : ¬ IsImage octets) :
    classify octets = .error (.os 8) := by
  rw [classify, if_neg (mt isPrefixOf_scriptMark.mp hscript), if_neg (mt isImage_iff.mpr himage),
    Errno.badExecutable]

/-- Exactly when a content is of which kind. -/
theorem classify_iff (octets : Bytes) :
    (classify octets = .ok .script ↔ Bytes.ofText "#!" <+: octets) ∧
    (classify octets = .ok .console ↔
      ¬ Bytes.ofText "#!" <+: octets ∧ IsImage octets ∧ machineNumber octets = 62) ∧
    (classify octets = .ok .foreign ↔
      ¬ Bytes.ofText "#!" <+: octets ∧ IsImage octets ∧ machineNumber octets ≠ 62) ∧
    (classify octets = .error (.os 8) ↔ ¬ Bytes.ofText "#!" <+: octets ∧ ¬ IsImage octets) := by
  by_cases hscript : Bytes.ofText "#!" <+: octets
  · simp [classify_of_script hscript, hscript]
  · by_cases himage : IsImage octets
    · rw [classify_of_image hscript himage]
      by_cases hnumber : machineNumber octets = 62 <;> simp [hscript, himage, hnumber]
    · simp [classify_of_neither hscript himage, hscript, himage]

/-- What is recognised stays so, whatever follows. -/
theorem classify_append_of_ok {type : AppType} (h : classify octets = .ok type) (more : Bytes) :
    classify (octets ++ more) = .ok type := by
  by_cases hscript : Bytes.ofText "#!" <+: octets
  · rw [classify_of_script hscript] at h
    rw [classify_of_script (hscript.trans (List.prefix_append octets more)), h]
  · by_cases himage : IsImage octets
    · have hlength : 20 ≤ octets.length := himage.2
      rw [← h]
      refine classify_congr ?_ fun i hi => List.getElem?_append_left ?_
      · simp [headerLength]
        omega
      · have hlt : i < 20 := by
          revert i
          decide
        omega
    · rw [classify_of_neither hscript himage] at h
      cases h

end AppType

namespace Machine

/-- **The kind of a target**: of whatever can be read from a target a machine reads twenty octets,
and finds the kind that the whole content is of, or any twenty octets and more of a content without
end. That kind is told by the marks at the beginning and the machine number; more octets at the end
do not change a kind that is recognised; and of two contents that are long enough only seven octets
need to be compared. -/
theorem queryType_classifies (content : Content) :
    (∀ (m : Machine) (target : Bytes) (place : Place) (node : Node),
      m.files.resolve target = .ok place → m.files.nodeAt? place = some node →
      node.content? = some content →
      (host.queryType target m).answer = AppType.classify (content.start 20)) ∧
    (∀ octets, content.Shows octets →
      AppType.classify (content.start 20) = AppType.classify octets) ∧
    ∀ octets,
      (AppType.classify octets = .ok .script ↔ Bytes.ofText "#!" <+: octets) ∧
      (AppType.classify octets = .ok .console ↔ ¬ Bytes.ofText "#!" <+: octets ∧
        AppType.IsImage octets ∧ AppType.machineNumber octets = 62) ∧
      (AppType.classify octets = .ok .foreign ↔ ¬ Bytes.ofText "#!" <+: octets ∧
        AppType.IsImage octets ∧ AppType.machineNumber octets ≠ 62) ∧
      (AppType.classify octets = .error (.os 8) ↔
        ¬ Bytes.ofText "#!" <+: octets ∧ ¬ AppType.IsImage octets) ∧
      (∀ type more, AppType.classify octets = .ok type →
        AppType.classify (octets ++ more) = .ok type) ∧
      ∀ other, 20 ≤ octets.length → 20 ≤ other.length →
        (∀ i ∈ [0, 1, 2, 3, 5, 18, 19], octets[i]? = other[i]?) →
        AppType.classify octets = AppType.classify other := by
  refine ⟨fun m target place node hpath hnode hcontent => ?_, fun octets hshows => ?_,
    fun octets => ?_⟩
  · simp only [host, queryType, FileSystem.readStart_of_content hpath hnode hcontent,
      AppType.headerLength]
  · exact (congrArg AppType.classify hshows.start_eq).trans (AppType.classify_take octets)
  · obtain ⟨hscript, hconsole, hforeign, hunknown⟩ := AppType.classify_iff octets
    refine ⟨hscript, hconsole, hforeign, hunknown, fun type more htype => ?_,
      fun other hlength hlength' hplaces => ?_⟩
    · exact AppType.classify_append_of_ok htype more
    · exact AppType.classify_congr (iff_of_true hlength hlength') hplaces

/-- An image with the more significant octets first, and some octets behind its header. -/
def swappedImage : Bytes :=
  AppType.imageMark ++ [2, 2] ++ List.replicate 12 0 ++ [0, 62] ++ Bytes.ofText "more"

/-- The octets of the mark of a script, over and over. -/
def marks (i : Nat) : UInt8 := if i % 2 = 0 then 0x23 else 0x21

/-- A machine that holds the image and a device that gives the marks without end. -/
def withSwappedImage : Machine where
  store := { files := { entries := [([Bytes.ofText "image"], .file swappedImage true),
    ([Bytes.ofText "marks"], .device marks)] } }
  env := ⟨[], none⟩
  stub := 6
  child := 7
  conduct := { status := .ofExit 0 }
  queueDir := []

/-- The image is one for this machine, as its header alone is, and marks without end are a script,
as the first thirty octets of them are. -/
theorem queryType_classifies_swappedImage :
    AppType.machineNumber swappedImage = 62 ∧
      (host.queryType (Bytes.ofText "/image") withSwappedImage).answer = .ok .console ∧
      AppType.classify (swappedImage.take 20 ++ Bytes.ofText "less") = .ok .console ∧
      (host.queryType (Bytes.ofText "/marks") withSwappedImage).answer =
        AppType.classify ((List.range 30).map marks) ∧
      AppType.classify ((List.range 30).map marks) = .ok .script := by
  have himage : AppType.IsImage swappedImage := ⟨by decide, by decide⟩
  have hnumber : AppType.machineNumber swappedImage = 62 := by decide
  obtain ⟨hasked, hwhole, hkinds⟩ := queryType_classifies (.upTo swappedImage)
  obtain ⟨-, hconsole, -, -, -, hplaces⟩ := hkinds swappedImage
  have hkind := hconsole.mpr ⟨by decide, himage, hnumber⟩
  obtain ⟨hmarks, hendless, hscripts⟩ := queryType_classifies (.endless marks)
  refine ⟨hnumber, ?_, ?_, ?_, (hscripts _).1.mpr (by decide)⟩
  · rw [hasked withSwappedImage (Bytes.ofText "/image") [Bytes.ofText "image"]
      (.file swappedImage true) (by decide) rfl rfl, hwhole swappedImage rfl, hkind]
  · rw [← hplaces (swappedImage.take 20 ++ Bytes.ofText "less") (by decide) (by decide)
      (by decide), hkind]
  · rw [hmarks withSwappedImage (Bytes.ofText "/marks") [Bytes.ofText "marks"] (.device marks)
      (by decide) rfl rfl]
    exact hendless _ ⟨30, by decide, rfl⟩

end Machine

end LaunchStub
