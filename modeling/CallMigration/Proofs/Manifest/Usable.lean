import CallMigration.Proofs.Manifest.Record
import CallMigration.Proofs.Text.Utf8

/-!
# What can be read can be replaced

A range is usable if it runs forward and each end is where a character of the source begins or the
source ends, which the encoding alone decides. Reading a range off a source cuts the text twice, and
checking an edit tests the direction, the bounds and the two ends; both succeed for the usable
ranges.

* `Text.isBoundary_iff_beginsAt`: a character begins where its first byte stands;
* `TextRange.frames_of_contains`: a piece that is read within another stands between two more;
* `TextRange.isSome_slice?_iff_validate`: what can be read can be replaced, and by itself without
  any change.
-/

namespace CallMigration

namespace Text

/-- Whether the first byte of a character stands at an offset of a source, or the source ends. -/
def BeginsAt (source : String) (offset : Nat) : Prop :=
  offset = source.utf8ByteSize ∨
    ∃ byte, source.toUTF8.toList[offset]? = some byte ∧ byte.IsUTF8FirstByte

variable {source : String} {n : Nat}

theorem isBoundary_iff_isValid :
    isBoundary source.toList n = true ↔ (⟨n⟩ : String.Pos.Raw).IsValid source := by
  rw [isBoundary_iff, String.Pos.Raw.isValid_iff_exists_append]
  constructor
  · rintro ⟨a, b, hsource, rfl⟩
    refine ⟨String.ofList a, String.ofList b, ?_, ?_⟩
    · rw [← String.ofList_append, ← hsource, String.ofList_toList]
    · rw [← String.toList_ofList (l := a), byteLength_toList, String.ofList_toList]
      rfl
  · rintro ⟨before, rest, rfl, hn⟩
    refine ⟨before.toList, rest.toList, String.toList_append, ?_⟩
    rw [byteLength_toList]
    exact (congrArg String.Pos.Raw.byteIdx hn).symm

/-- Characters begin where their first bytes stand. -/
theorem isBoundary_iff_beginsAt : isBoundary source.toList n = true ↔ BeginsAt source n := by
  rw [isBoundary_iff_isValid, String.Pos.Raw.isValid_iff_isUTF8FirstByte, BeginsAt,
    String.Pos.Raw.ext_iff]
  refine or_congr Iff.rfl ?_
  rw [byteArray_toList, String.toUTF8_eq_toByteArray]
  constructor
  · rintro ⟨hn, hfirst⟩
    exact ⟨_, List.getElem?_eq_getElem hn, hfirst⟩
  · rintro ⟨byte, hbyte, hfirst⟩
    obtain ⟨hn, rfl⟩ := List.getElem?_eq_some_iff.mp hbyte
    exact ⟨hn, hfirst⟩

end Text

namespace TextRange

/-- Whether the text of a range in a source is that of a range within it between two others. -/
structure Frames (outer inner : TextRange) (source before piece after : String) : Prop where
  whole : outer.slice? source = some (before ++ piece ++ after)
  front : (⟨outer.start, inner.start⟩ : TextRange).slice? source = some before
  back : (⟨inner.stop, outer.stop⟩ : TextRange).slice? source = some after

/-- A piece of a source frames the pieces within it. -/
theorem frames_of_contains {outer inner : TextRange} {source whole piece : String}
    (houter : outer.slice? source = some whole) (hinner : inner.slice? source = some piece)
    (hcontains : outer.contains inner = true) :
    ∃ before after, outer.Frames inner source before piece after := by
  obtain ⟨a, b, hcut⟩ := slice?_eq_some_iff.mp houter
  obtain ⟨a', b', hcut'⟩ := slice?_eq_some_iff.mp hinner
  obtain ⟨hsource, hstart, hstop⟩ := cut?_eq_some_iff.mp hcut
  obtain ⟨hsource', hstart', hstop'⟩ := cut?_eq_some_iff.mp hcut'
  obtain ⟨hbefore, hbehind⟩ := contains_iff.mp hcontains
  obtain ⟨after, hparts, rfl⟩ :=
    Text.exists_between (hsource'.symm.trans hsource) (by omega)
  have hfront : a ++ whole.toList = a' ++ (piece.toList ++ after) := by
    rw [hparts, List.append_assoc]
  obtain ⟨before, rfl, hwhole⟩ := Text.exists_between hfront (by omega)
  refine ⟨String.ofList before, String.ofList after, ?whole, ?front, ?back⟩
  case whole =>
    rw [houter, Option.some.injEq, ← String.toList_inj]
    simp [hwhole]
  case front =>
    refine slice?_eq_some_iff.mpr ⟨a, piece.toList ++ (after ++ b), cut?_eq_some_iff.mpr ?_⟩
    rw [String.toList_ofList]
    exact ⟨by rw [hsource', List.append_assoc], hstart, hstart'⟩
  case back =>
    refine slice?_eq_some_iff.mpr ⟨a ++ before ++ piece.toList, b, cut?_eq_some_iff.mpr ?_⟩
    rw [String.toList_ofList]
    exact ⟨by rw [hsource', List.append_assoc _ after], hstop', by rw [← hparts, hstop]⟩

/-- Whether a range runs forward from one place where a character of a source begins, or where the
source ends, to another. -/
structure IsUsable (range : TextRange) (source : String) : Prop where
  forward : range.start ≤ range.stop
  start : Text.BeginsAt source range.start
  stop : Text.BeginsAt source range.stop

/-- Whether a range names a piece of a source. -/
structure Names (range : TextRange) (source piece : String) : Prop where
  /-- The source is the text in front of the range, the piece, and the text behind the range. -/
  around : ∃ before after, (⟨0, range.start⟩ : TextRange).slice? source = some before ∧
    (⟨range.stop, source.utf8ByteSize⟩ : TextRange).slice? source = some after ∧
    source = before ++ piece ++ after
  /-- The bytes in the range encode the piece. -/
  bytes : piece.toUTF8.toList = (source.toUTF8.toList.drop range.start).take range.size
  /-- The piece in the place of the range gives the source back. -/
  restores : (⟨range, piece⟩ : Edit).apply source = .ok source

variable {range : TextRange} {source piece : String} {a m b : List Char}

/-- An edit is valid exactly on the usable ranges. -/
theorem validate_iff_isUsable {text : String} :
    (⟨range, text⟩ : Edit).validate source = .ok () ↔ range.IsUsable source := by
  rw [Edit.validate_eq_ok_iff, exists_cut?_iff, Text.isBoundary_iff_beginsAt,
    Text.isBoundary_iff_beginsAt]
  exact ⟨fun ⟨hforward, hstart, hstop⟩ => ⟨hforward, hstart, hstop⟩,
    fun ⟨hforward, hstart, hstop⟩ => ⟨hforward, hstart, hstop⟩⟩

/-- The bytes in front of a range, in it and behind it are those of the texts that it cuts off. -/
theorem bytesOf_of_cut? (h : range.cut? source.toList = some (a, m, b)) :
    Text.bytesOf a = source.toUTF8.toList.take range.start ∧
      Text.bytesOf m = (source.toUTF8.toList.drop range.start).take range.size ∧
      Text.bytesOf b = source.toUTF8.toList.drop range.stop := by
  obtain ⟨hsource, hstart, hstop⟩ := cut?_eq_some_iff.mp h
  have hsize := (byteLength_of_cut? h).2.1
  rw [← Text.length_bytesOf] at hstart hstop hsize
  rw [Text.toList_toUTF8, hsource, Text.bytesOf_append]
  refine ⟨?before, ?inside, ?behind⟩
  case before => rw [Text.bytesOf_append, List.append_assoc, ← hstart, List.take_left]
  case inside =>
    rw [Text.bytesOf_append, List.append_assoc, ← hstart, List.drop_left, ← hsize, List.take_left]
  case behind => rw [← hstop, List.drop_left]

theorem slice?_whole (source : String) :
    (⟨0, source.utf8ByteSize⟩ : TextRange).slice? source = some source :=
  slice?_eq_some_iff.mpr ⟨[], [], cut?_eq_some_iff.mpr
    ⟨by simp, rfl, by simpa using Text.byteLength_toList source⟩⟩

/-- A range that can be read lies within the source. -/
theorem contains_of_slice? (h : range.slice? source = some piece) :
    (⟨0, source.utf8ByteSize⟩ : TextRange).contains range = true := by
  obtain ⟨a, b, hcut⟩ := slice?_eq_some_iff.mp h
  have hstop := (exists_cut?_iff.mp ⟨a, _, b, hcut⟩).2.2
  rw [contains_iff, ← Text.byteLength_toList]
  exact ⟨Nat.zero_le _, Text.le_byteLength_of_isBoundary hstop⟩

/-- A range that can be read names the piece that is read. -/
theorem names_of_slice? (h : range.slice? source = some piece) : range.Names source piece := by
  obtain ⟨a, b, hcut⟩ := slice?_eq_some_iff.mp h
  obtain ⟨before, after, hframes⟩ :=
    frames_of_contains (slice?_whole source) h (contains_of_slice? h)
  refine ⟨⟨before, after, hframes.front, hframes.back, ?whole⟩, ?bytes, ?restores⟩
  case whole => exact Option.some.inj ((slice?_whole source).symm.trans hframes.whole)
  case bytes => rw [Text.toList_toUTF8, (bytesOf_of_cut? hcut).2.1]
  case restores =>
    rw [Edit.apply_of_cut? hcut, ← (cut?_eq_some_iff.mp hcut).1, String.ofList_toList]

/-- **What can be read can be replaced.** A piece of a source can be read off a range, and loaded
for a recorded call, exactly if an edit of the range is valid, that is, if the range runs forward
between places where characters begin or the source ends. The source is then made up of the text in
front of the range, the piece, and the text behind it, and an edit that puts the piece in its own
place gives the source back. -/
theorem isSome_slice?_iff_validate (source : String) (range : TextRange) (what text : String) :
    ((range.slice? source).isSome = true ↔ (⟨range, text⟩ : Edit).validate source = .ok ()) ∧
      ((∃ piece, CallRecord.slice source what range = .ok piece) ↔
        (⟨range, text⟩ : Edit).validate source = .ok ()) ∧
      ((⟨range, text⟩ : Edit).validate source = .ok () ↔ range.IsUsable source) ∧
      ∀ piece, range.slice? source = some piece → range.Names source piece := by
  have hvalid : (⟨range, text⟩ : Edit).validate source = .ok () ↔
      (range.slice? source).isSome = true := Edit.validate_eq_ok_iff_slice?
  refine ⟨hvalid.symm, ?loaded, validate_iff_isUsable, fun piece => names_of_slice?⟩
  case loaded =>
    simp only [CallRecord.slice_eq_ok_iff]
    rw [hvalid, Option.isSome_iff_exists]

/-- The range of a character of two bytes is usable; half of it is not. -/
theorem isSome_slice?_iff_validate_accented :
    (⟨2, 4⟩ : TextRange).slice? "x.é();" = some "é" ∧
      (⟨⟨2, 4⟩, "y"⟩ : Edit).validate "x.é();" = .ok () ∧
      (⟨2, 4⟩ : TextRange).Names "x.é();" "é" ∧ ¬ (⟨2, 3⟩ : TextRange).IsUsable "x.é();" := by
  have hslice : (⟨2, 4⟩ : TextRange).slice? "x.é();" = some "é" := by decide +kernel
  have hnone : (⟨2, 3⟩ : TextRange).slice? "x.é();" = none := by decide +kernel
  obtain ⟨hread, -, -, hnames⟩ := isSome_slice?_iff_validate "x.é();" ⟨2, 4⟩ "call" "y"
  obtain ⟨hread', -, husable, -⟩ := isSome_slice?_iff_validate "x.é();" ⟨2, 3⟩ "call" "y"
  refine ⟨hslice, hread.mp (by rw [hslice]; rfl), hnames "é" hslice, ?_⟩
  rw [← husable, ← hread', hnone]
  simp

end TextRange

end CallMigration
