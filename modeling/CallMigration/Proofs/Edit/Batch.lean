import CallMigration.Proofs.Edit.Splice
import Mathlib.Algebra.BigOperators.Group.List.Basic
import Mathlib.Algebra.Ring.Int.Defs
import Mathlib.Data.List.Induction

/-!
# Making a batch of edits in place

A batch is made on one text, edit by edit from its end to its beginning. The invariant is that the
text in front of the edit made last is still the untouched beginning of the source, so that every
range finds what it was meant for.

* `makeAll_eq_splice`: making edits that do not overlap is the walk over the source;
* `cut?_foldl_replaceIn`: each edit finds its own piece of the source where it was;
* `splice_perm`: the order in which edits are given does not matter;
* `byteLength_foldl_replaceIn`: the lengths of the texts account for the length of the result.
-/

namespace CallMigration

namespace Edit

/-- The edit has its place in the source. -/
def FitsIn (source : List Char) (e : Edit) : Prop :=
  ∃ a m b, e.range.cut? source = some (a, m, b)

/-- Edits in the order in which they are made: each precedes those made before it. -/
def Ordered (edits : List Edit) : Prop := edits.Pairwise fun later e => e.Precedes later

theorem madeBefore_total (e f : Edit) : e.madeBefore f = true ∨ f.madeBefore e = true := by
  simp only [madeBefore, Bool.or_eq_true, Bool.and_eq_true, decide_eq_true_eq, beq_iff_eq]
  omega

theorem madeBefore_trans (e f g : Edit) (hef : e.madeBefore f = true)
    (hfg : f.madeBefore g = true) : e.madeBefore g = true := by
  simp only [madeBefore, Bool.or_eq_true, Bool.and_eq_true, decide_eq_true_eq, beq_iff_eq] at *
  omega

/-- Of two edits that do not overlap, the one that is made later precedes the other. -/
theorem precedes_of_madeBefore {e later : Edit} (hforward : later.range.start ≤ later.range.stop)
    (hfree : later.overlaps e = false) (hbefore : later.madeBefore e = true) :
    e.Precedes later := by
  refine ⟨?_, by rw [overlaps_comm]; exact hfree⟩
  simp only [madeBefore, Bool.or_eq_true, Bool.and_eq_true, decide_eq_true_eq, beq_iff_eq]
    at hbefore
  rw [← Bool.not_eq_true, overlaps_iff] at hfree
  omega

section Fold

variable {source : List Char} {edits : List Edit}

/-- Edits that do not overlap are put in order by `madeBefore`. -/
theorem ordered_inOrder (hfits : ∀ e ∈ edits, e.FitsIn source)
    (hfree : edits.Pairwise fun e f => e.overlaps f = false) :
    Ordered (inOrder madeBefore edits) := by
  have hperm : (inOrder madeBefore edits).Perm edits := inOrder_perm edits
  have hfree' : (inOrder madeBefore edits).Pairwise fun e f => e.overlaps f = false :=
    hperm.symm.pairwise hfree fun {e f} h => by rw [overlaps_comm]; exact h
  have hbefore := pairwise_inOrder madeBefore_total madeBefore_trans edits
  apply List.Pairwise.imp_of_mem _ (hfree'.and hbefore)
  intro later e hlater _ ⟨hfree, hbefore⟩
  obtain ⟨a, m, b, hcut⟩ := hfits later (hperm.mem_iff.mp hlater)
  exact precedes_of_madeBefore (TextRange.byteLength_of_cut? hcut).2.2 hfree hbefore

/-- **The invariant of making edits.** In front of all edits made so far the text is still that of
the source; from there on it is what the walk makes of the rest of the source. -/
theorem foldl_replaceIn_eq (hfits : ∀ e ∈ edits, e.FitsIn source) (hordered : Ordered edits)
    {a b : List Char} (hsource : source = a ++ b)
    (hfront : ∀ e ∈ edits, Text.byteLength a ≤ e.range.start) :
    edits.foldl (fun text e => e.replaceIn text) source =
      a ++ spliceFrom edits (Text.byteLength a) b := by
  -- The edit made last comes first in the source, so the induction takes edits off at the end.
  induction edits using List.reverseRecOn generalizing a b with
  | nil =>
      have hskip : spliceFrom [] (Text.byteLength a) (b ++ []) =
          b ++ spliceFrom [] (Text.byteLength a + Text.byteLength b) [] := spliceFrom_skip (by simp)
      simpa [hsource, spliceFrom, textsAt] using hskip.symm
  | append_singleton made e ih =>
      obtain ⟨hmade, -, hlater⟩ := List.pairwise_append.mp hordered
      obtain ⟨before, inside, after, hcut⟩ := hfits e (by simp)
      obtain ⟨hparts, hbefore, hinside⟩ := TextRange.cut?_eq_some_iff.mp hcut
      have hforward := (TextRange.byteLength_of_cut? hcut).2.2
      have hprecedes : ∀ f ∈ made, e.Precedes f := fun f hf => hlater f hf e (by simp)
      have htext := ih (fun f hf => hfits f (by simp [hf])) hmade hparts
        (fun f hf => by rw [hinside]; exact (hprecedes f hf).1)
      rw [hinside] at htext
      have hcut' := TextRange.cut?_eq_some_iff.mpr ⟨htext, hbefore, hinside⟩
      obtain ⟨gap, rfl, rfl⟩ := Text.exists_between (hsource.symm.trans (by simpa using hparts))
        (by rw [hbefore]; exact hfront e (by simp))
      rw [Text.byteLength_append] at hbefore hinside
      rw [Text.byteLength_append] at hinside
      have hskip : ∀ f ∈ made ++ [e], Text.byteLength a + Text.byteLength gap ≤ f.range.start := by
        intro f hf
        rcases List.mem_append.mp hf with hf | hf
        · have := (hprecedes f hf).1
          omega
        · rw [List.mem_singleton.mp hf]
          omega
      rw [List.foldl_append, List.foldl_cons, List.foldl_nil, replaceIn, hcut',
        spliceFrom_skip hskip, hbefore, spliceFrom_first (by omega) hprecedes]
      simp

/-- Every edit finds its own piece of the source where it was, whatever was made before it. -/
theorem cut?_foldl_replaceIn {made : List Edit} {e : Edit}
    (hfits : ∀ f ∈ made ++ [e], f.FitsIn source) (hordered : Ordered (made ++ [e])) :
    ∃ before inside after later, e.range.cut? source = some (before, inside, after) ∧
      e.range.cut? (made.foldl (fun text f => f.replaceIn text) source) =
        some (before, inside, later) := by
  obtain ⟨hmade, -, hlater⟩ := List.pairwise_append.mp hordered
  obtain ⟨before, inside, after, hcut⟩ := hfits e (by simp)
  obtain ⟨hparts, hbefore, hinside⟩ := TextRange.cut?_eq_some_iff.mp hcut
  have htext := foldl_replaceIn_eq (fun f hf => hfits f (by simp [hf])) hmade hparts
    (fun f hf => by rw [hinside]; exact (hlater f hf e (by simp)).1)
  exact ⟨before, inside, after, _, hcut, TextRange.cut?_eq_some_iff.mpr ⟨htext, hbefore, hinside⟩⟩

/-- By how much an edit makes a text longer. -/
def growth (e : Edit) : Int := e.text.utf8ByteSize - e.range.size

/-- The edits account for the length of what they make of the source. -/
theorem byteLength_foldl_replaceIn (hfits : ∀ e ∈ edits, e.FitsIn source)
    (hordered : Ordered edits) :
    (Text.byteLength (edits.foldl (fun text e => e.replaceIn text) source) : Int) =
      Text.byteLength source + (edits.map growth).sum := by
  induction edits using List.reverseRecOn with
  | nil => simp
  | append_singleton made e ih =>
      obtain ⟨before, inside, after, later, -, hcut⟩ := cut?_foldl_replaceIn hfits hordered
      have hmade := ih (fun f hf => hfits f (by simp [hf])) (List.pairwise_append.mp hordered).1
      have hsize := (TextRange.byteLength_of_cut? hcut).2.1
      have htext := (TextRange.cut?_eq_some_iff.mp hcut).1
      rw [htext] at hmade
      rw [List.foldl_append, List.foldl_cons, List.foldl_nil, replaceIn, hcut]
      simp only [Text.byteLength_append, Text.byteLength_toList, List.map_append, List.map_cons,
        List.map_nil, List.sum_append, List.sum_cons, List.sum_nil, growth, ← hsize] at hmade ⊢
      omega

end Fold

section Order

variable {source : String} {edits edits' : List Edit}

/-- At most one of some edits that do not overlap has a property that edits share only when they
overlap; so the order of the edits does not show in the list of those that have it. -/
theorem filter_eq_of_perm {p : Edit → Bool} (hperm : edits.Perm edits')
    (hfree : edits.Pairwise fun e f => e.overlaps f = false)
    (hshared : ∀ e ∈ edits, ∀ f ∈ edits, p e = true → p f = true → e.overlaps f = true) :
    edits.filter p = edits'.filter p := by
  have hfree' := hfree.filter p
  have hmem : ∀ e ∈ edits.filter p, e ∈ edits ∧ p e = true := fun e he => List.mem_filter.mp he
  cases hfilter : edits.filter p with
  | nil =>
      have := hperm.filter p
      rw [hfilter] at this
      exact (List.nil_perm.mp this).symm
  | cons e others =>
      rw [hfilter] at hmem hfree'
      cases others with
      | nil =>
          have := hperm.filter p
          rw [hfilter] at this
          exact List.singleton_perm.mp this
      | cons f others =>
          obtain ⟨he, hpe⟩ := hmem e (by simp)
          obtain ⟨hf, hpf⟩ := hmem f (by simp)
          have hef := (List.pairwise_cons.mp hfree').1 f (by simp)
          rw [hshared e he f hf hpe hpf] at hef
          cases hef

theorem textsAt_perm (hperm : edits.Perm edits')
    (hforward : ∀ e ∈ edits, e.range.start ≤ e.range.stop)
    (hfree : edits.Pairwise fun e f => e.overlaps f = false) (offset : Nat) :
    textsAt edits offset = textsAt edits' offset := by
  unfold textsAt
  congr 2
  · apply filter_eq_of_perm hperm hfree
    intro e _ f _ he hf
    simp only [insertsAt, isInsertion, Bool.and_eq_true, beq_iff_eq] at he hf
    exact overlaps_iff.mpr (by omega)
  · apply filter_eq_of_perm hperm hfree
    intro e hmem f hmem' he hf
    have := hforward e hmem
    have := hforward f hmem'
    simp only [replacesAt, isInsertion, Bool.and_eq_true, Bool.not_eq_true', beq_iff_eq,
      beq_eq_false_iff_ne] at he hf
    exact overlaps_iff.mpr (by omega)

/-- **Order does not matter.** The walk gives the same for edits that do not overlap in whatever
order they are listed. -/
theorem splice_perm (hperm : edits.Perm edits')
    (hforward : ∀ e ∈ edits, e.range.start ≤ e.range.stop)
    (hfree : edits.Pairwise fun e f => e.overlaps f = false) :
    splice source edits = splice source edits' := by
  have key (offset : Nat) (text : List Char) :
      spliceFrom edits offset text = spliceFrom edits' offset text := by
    induction text generalizing offset with
    | nil => exact textsAt_perm hperm hforward hfree offset
    | cons c rest ih =>
        simp only [spliceFrom, textsAt_perm hperm hforward hfree, hperm.any_eq, ih]
  unfold splice
  rw [key]

/-- Making valid edits that do not overlap is the walk over the source. -/
theorem makeAll_eq_splice (hvalid : ∀ e ∈ edits, e.validate source = .ok ())
    (hfree : edits.Pairwise fun e f => e.overlaps f = false) :
    makeAll source edits = splice source edits := by
  have hperm : (inOrder madeBefore edits).Perm edits := inOrder_perm edits
  have hfits : ∀ e ∈ edits, e.FitsIn source.toList :=
    fun e he => validate_eq_ok_iff.mp (hvalid e he)
  have hmade := foldl_replaceIn_eq (fun e he => hfits e (hperm.mem_iff.mp he))
    (ordered_inOrder hfits hfree) (a := []) (b := source.toList) rfl (by simp)
  calc makeAll source edits
      = splice source (inOrder madeBefore edits) := by
        simp [makeAll, splice, hmade]
    _ = splice source edits :=
        (splice_perm hperm.symm (fun e he => start_le_stop_of_validate (hvalid e he)) hfree).symm

/-- A valid batch succeeds, and is what the edits make of the source that are accepted. -/
theorem applyAll_of_valid (hvalid : ∀ e ∈ edits, e.validate source = .ok ()) :
    applyAll source edits = .ok ⟨makeAll source (Selection.firstCome overlaps edits).accepted,
      (Selection.firstCome overlaps edits).accepted.length,
      (Selection.firstCome overlaps edits).deferred⟩ := by
  unfold applyAll
  rw [validateAll_eq_ok_iff.mpr hvalid]

theorem validate_of_applyAll {result : AppliedEdits} (h : applyAll source edits = .ok result) :
    ∀ e ∈ edits, e.validate source = .ok () := by
  unfold applyAll at h
  split at h
  · cases h
  · next hvalid => exact validateAll_eq_ok_iff.mp hvalid

/-- The text of an insertion that is made stands in the result. -/
theorem infix_splice {e : Edit} (hmem : e ∈ edits) (hinsertion : e.isInsertion = true)
    (hvalid : e.validate source = .ok ()) :
    e.text.toList <:+: (splice source edits).toList := by
  obtain ⟨a, m, b, hcut⟩ := validate_eq_ok_iff.mp hvalid
  obtain ⟨hsource, ha, -⟩ := TextRange.cut?_eq_some_iff.mp hcut
  have htexts : e.text.toList <:+: textsAt edits e.range.start := by
    have hinserts : e ∈ edits.filter (·.insertsAt e.range.start) :=
      List.mem_filter.mpr ⟨hmem, by simp [insertsAt, hinsertion]⟩
    obtain ⟨before, after, hfilter⟩ := List.append_of_mem
      (List.mem_append_left (edits.filter (·.replacesAt e.range.start)) hinserts)
    rw [textsAt, hfilter, List.flatMap_append, List.flatMap_cons]
    exact ⟨_, _, List.append_assoc _ _ _⟩
  have hwalk := textsAt_infix_spliceFrom edits 0 a (m ++ b)
  rw [Nat.zero_add, ha, ← List.append_assoc, ← hsource] at hwalk
  rw [splice, String.toList_ofList]
  exact htexts.trans hwalk

end Order

/-- The edits of a batch that are made. -/
def accepted (edits : List Edit) : List Edit := (Selection.firstCome overlaps edits).accepted

/-- **A batch is spliced in.** A batch of valid edits succeeds, and its result is the walk over the
untouched source for the accepted edits. While they are made in place, each of them cuts the text
exactly where it cuts the source; the result is longer by what each adds; and where no two edits
overlap, the batch gives the same result in any order. -/
theorem applyAll_eq_splice {source : String} {edits : List Edit}
    (hvalid : ∀ e ∈ edits, e.validate source = .ok ()) :
    ∃ result, applyAll source edits = .ok result ∧
      result.source = splice source (accepted edits) ∧
      (∀ made e rest, inOrder madeBefore (accepted edits) = made ++ e :: rest →
        ∃ before inside after later, e.range.cut? source.toList = some (before, inside, after) ∧
          e.range.cut? (made.foldl (fun text f => f.replaceIn text) source.toList) =
            some (before, inside, later)) ∧
      (result.source.utf8ByteSize : Int) =
        source.utf8ByteSize + ((accepted edits).map growth).sum ∧
      ((edits.Pairwise fun e f => e.overlaps f = false) →
        ∀ edits', edits'.Perm edits → applyAll source edits' = .ok result) := by
  have hmem : ∀ e ∈ accepted edits, e ∈ edits :=
    fun e he => (Selection.firstCome_sublist edits).subset he
  have hvalid' : ∀ e ∈ accepted edits, e.validate source = .ok () :=
    fun e he => hvalid e (hmem e he)
  have hfits : ∀ e ∈ accepted edits, e.FitsIn source.toList :=
    fun e he => validate_eq_ok_iff.mp (hvalid' e he)
  have hfree : (accepted edits).Pairwise fun e f => e.overlaps f = false :=
    Selection.pairwise_firstCome edits
  have hperm : (inOrder madeBefore (accepted edits)).Perm (accepted edits) :=
    inOrder_perm (accepted edits)
  have hordered := ordered_inOrder hfits hfree
  have hfits' : ∀ e ∈ inOrder madeBefore (accepted edits), e.FitsIn source.toList :=
    fun e he => hfits e (hperm.mem_iff.mp he)
  refine ⟨_, applyAll_of_valid hvalid, makeAll_eq_splice hvalid' hfree, ?_, ?_, ?_⟩
  · intro made e rest hsplit
    have hbegins : inOrder madeBefore (accepted edits) = (made ++ [e]) ++ rest := by
      rw [hsplit, List.append_assoc, List.singleton_append]
    rw [hbegins] at hordered hfits'
    exact cut?_foldl_replaceIn (fun f hf => hfits' f (List.mem_append_left _ hf))
      (List.pairwise_append.mp hordered).1
  · have hlength := byteLength_foldl_replaceIn hfits' hordered
    rw [(hperm.map growth).sum_eq, Text.byteLength_toList] at hlength
    rw [← hlength, ← Text.byteLength_toList]
    simp [makeAll, accepted]
  · intro hfree edits' hperm'
    have hfree' : edits'.Pairwise fun e f => e.overlaps f = false :=
      hperm'.symm.pairwise hfree fun {e f} h => by rw [overlaps_comm]; exact h
    have hvalid'' : ∀ e ∈ edits', e.validate source = .ok () :=
      fun e he => hvalid e (hperm'.mem_iff.mp he)
    rw [applyAll_of_valid hvalid'', Selection.firstCome_of_pairwise hfree,
      Selection.firstCome_of_pairwise hfree', makeAll_eq_splice hvalid hfree,
      makeAll_eq_splice hvalid'' hfree', hperm'.length_eq,
      splice_perm hperm' (fun e he => start_le_stop_of_validate (hvalid'' e he)) hfree']

/-- The walk at a replacement with insertions at both of its ends, behind characters of more than
one byte. -/
theorem applyAll_eq_splice_touching :
    (∀ e ∈ ([⟨⟨5, 9⟩, "g(x, y)"⟩, .insertion 5 "this.", ⟨⟨0, 2⟩, "e"⟩, ⟨⟨7, 8⟩, "z"⟩,
        .insertion 9 ";"] : List Edit), e.validate "é = f(x)" = .ok ()) ∧
      ∃ result, applyAll "é = f(x)" [⟨⟨5, 9⟩, "g(x, y)"⟩, .insertion 5 "this.", ⟨⟨0, 2⟩, "e"⟩,
          ⟨⟨7, 8⟩, "z"⟩, .insertion 9 ";"] = .ok result ∧
        result.source = "e = this.g(x, y);" := by
  have hvalid : ∀ e ∈ ([⟨⟨5, 9⟩, "g(x, y)"⟩, .insertion 5 "this.", ⟨⟨0, 2⟩, "e"⟩, ⟨⟨7, 8⟩, "z"⟩,
      .insertion 9 ";"] : List Edit), e.validate "é = f(x)" = .ok () := by
    simp only [List.forall_mem_cons]
    refine ⟨?_, ?_, ?_, ?_, ?_, by simp⟩ <;> rfl
  obtain ⟨result, hresult, hsource, -⟩ := applyAll_eq_splice hvalid
  exact ⟨hvalid, result, hresult, hsource.trans (by decide +kernel)⟩

end Edit

end CallMigration
