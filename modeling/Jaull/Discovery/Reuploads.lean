import Jaull.Discovery.Hints
import Jaull.Lib.Grouping
import Jaull.Lib.Leaders
import Jaull.Lib.StableSort

/-!
# Copies of one model

Port of `collapse_quantized_reuploads` of `jaull/discovery/candidate_filter.py`. The repositories that quantize
one model are set aside behind the most popular of them. Candidates are compared as values: those of a search
have distinct repositories.
-/

namespace Jaull.Discovery
open Jaull.Domain Jaull.Lib Jaull.Text

section Model

/-- Python `_QUANTIZED_BASE_PREFIX`. -/
def quantizedBasePrefix : String :=
  "base_model:quantized:"

/-- Whether a tag names a quantized base. -/
def startsWithPrefix (tag : String) : Bool :=
  quantizedBasePrefix.toList.isPrefixOf (lower tag).toList

/-- Python `_quantized_base`. -/
def quantizedBase (candidate : SearchCandidate) : Option String :=
  if "gguf" ∈ candidate.tags.map lower then
    (candidate.tags.find? startsWithPrefix).map fun tag =>
      -- the tag itself is cut, not its small form
      lower (String.ofList (tag.toList.drop quantizedBasePrefix.length))
  else none

/-- Python `_more_popular`. -/
def morePopular (candidate other : SearchCandidate) : Bool :=
  toLex (other.downloads, toLex (other.likes, candidate.repoId)) <
    toLex (candidate.downloads, toLex (candidate.likes, other.repoId))

/-- The key siblings are sorted by. -/
def copyOrder (candidate : SearchCandidate) : ℤ ×ₗ ℤ ×ₗ String :=
  toLex (-candidate.downloads, toLex (-candidate.likes, candidate.repoId))

/-- Python `Reuploads`. -/
structure Reuploads where
  kept : List SearchCandidate
  alternatives : List (String × List SearchCandidate)
  deriving DecidableEq, Repr

/-- Whether a candidate keeps its place, `best` being the best copy of each base. -/
def isKept (best : List (String × SearchCandidate)) (candidate : SearchCandidate) : Bool :=
  match quantizedBase candidate with
  | none => true
  | some base => best.lookup base = some candidate

/-- The kept copy that a candidate is set aside behind. -/
def asideKey (best : List (String × SearchCandidate)) (candidate : SearchCandidate) : Option String :=
  match quantizedBase candidate with
  | none => none
  | some base =>
    match best.lookup base with
    | none => none
    | some copy => if copy = candidate then none else some (casefold copy.repoId)

/-- Python `collapse_quantized_reuploads`. -/
def collapseQuantizedReuploads (candidates : List SearchCandidate) : Reuploads :=
  let best := leaders quantizedBase morePopular candidates
  { kept := candidates.filter (isKept best)
    alternatives := (grouped (asideKey best) candidates).map fun group =>
      (group.1, sortedBy copyOrder group.2) }

end Model

section Copies
variable {candidates candidates' : List SearchCandidate} {candidate other : SearchCandidate} {base : String}
  {best : List (String × SearchCandidate)}

/-- More downloads, then more likes, then the smaller repository. -/
def MorePopular (candidate other : SearchCandidate) : Prop :=
  other.downloads < candidate.downloads ∨ other.downloads = candidate.downloads ∧
    (other.likes < candidate.likes ∨ other.likes = candidate.likes ∧ candidate.repoId < other.repoId)

/-- The comparison of the code is that of the order. -/
lemma morePopular_iff : morePopular candidate other = true ↔ MorePopular candidate other := by
  rw [morePopular, decide_eq_true_eq, Prod.Lex.toLex_lt_toLex, Prod.Lex.toLex_lt_toLex]
  rfl

/-- A copy comes earlier when it is more popular. -/
lemma copyOrder_lt_iff : copyOrder candidate < copyOrder other ↔ MorePopular candidate other := by
  rw [copyOrder, copyOrder, Prod.Lex.toLex_lt_toLex, Prod.Lex.toLex_lt_toLex, MorePopular]
  dsimp only
  rw [neg_lt_neg_iff, neg_lt_neg_iff, neg_inj, neg_inj, eq_comm, @eq_comm _ candidate.likes]

/-- And the other way round. -/
lemma morePopular_iff_lt : morePopular candidate other = true ↔ copyOrder candidate < copyOrder other :=
  morePopular_iff.trans copyOrder_lt_iff.symm

/-- The order tells repositories apart. -/
lemma repoId_of_copyOrder (same : copyOrder candidate = copyOrder other) : candidate.repoId = other.repoId :=
  congrArg (fun order => (ofLex (ofLex order).2).2) same

/-- Candidates whose names differ in more than case. -/
def Distinct (candidates : List SearchCandidate) : Prop :=
  (candidates.map fun candidate => casefold candidate.repoId).Nodup

/-- A repository is one candidate, whatever its case. -/
lemma Distinct.eq (distinct : Distinct candidates) (mem : candidate ∈ candidates) (mem' : other ∈ candidates)
    (same : casefold candidate.repoId = casefold other.repoId) : candidate = other :=
  List.inj_on_of_nodup_map distinct mem mem' same

/-- So is a place in the order. -/
lemma Distinct.eq_of_copyOrder (distinct : Distinct candidates) (mem : candidate ∈ candidates)
    (mem' : other ∈ candidates) (same : copyOrder candidate = copyOrder other) : candidate = other :=
  distinct.eq mem mem' (congrArg casefold (repoId_of_copyOrder same))

/-- No candidate comes twice. -/
lemma Distinct.nodup (distinct : Distinct candidates) : candidates.Nodup :=
  List.Nodup.of_map _ distinct

/-- No place comes twice. -/
lemma Distinct.nodup_copyOrder (distinct : Distinct candidates) : (candidates.map copyOrder).Nodup :=
  List.Nodup.map_on (fun _ mem _ mem' same => distinct.eq_of_copyOrder mem mem' same) distinct.nodup

/-- A candidate that nothing marks as a copy. -/
def Unmarked (candidate : SearchCandidate) : Prop :=
  "gguf" ∉ candidate.tags.map lower ∨
    ∀ tag ∈ candidate.tags, ¬ quantizedBasePrefix.toList <+: (lower tag).toList

/-- Without a mark there is no base. -/
lemma quantizedBase_eq_none (unmarked : Unmarked candidate) : quantizedBase candidate = none := by
  rw [quantizedBase]
  rcases unmarked with other | plain
  · rw [if_neg other]
  · have missing : candidate.tags.find? startsWithPrefix = none := by
      rw [List.find?_eq_none]
      intro tag mem starts
      exact plain tag mem (List.isPrefixOf_iff_prefix.mp starts)
    rw [missing]
    split
    · rfl
    · rfl

end Copies

section Best
variable {candidates candidates' : List SearchCandidate} {candidate copy : SearchCandidate} {base : String}

/-- The best copy of each base. -/
def bestCopies (candidates : List SearchCandidate) : List (String × SearchCandidate) :=
  leaders quantizedBase morePopular candidates

/-- The best copy of a base leads its copies. -/
lemma leads_bestCopies (candidates : List SearchCandidate) (base : String) :
    Leads quantizedBase copyOrder candidates base ((bestCopies candidates).lookup base) :=
  @lookup_leaders _ _ _ _ quantizedBase copyOrder _ morePopular (fun _ _ => morePopular_iff_lt) candidates base

/-- A base that a candidate has, has a best copy. -/
lemma exists_best (mem : candidate ∈ candidates) (own : quantizedBase candidate = some base) :
    ∃ copy, (bestCopies candidates).lookup base = some copy := by
  have leads := leads_bestCopies candidates base
  cases found : (bestCopies candidates).lookup base with
  | none =>
    rw [found] at leads
    exact absurd own (leads candidate mem)
  | some copy => exact ⟨copy, rfl⟩

/-- Of the copies of a base the best one is kept. -/
lemma isKept_eq (own : quantizedBase candidate = some base)
    (found : (bestCopies candidates).lookup base = some copy) :
    isKept (bestCopies candidates) candidate = decide (candidate = copy) := by
  rw [isKept, own]
  dsimp only
  rw [found]
  exact decide_eq_decide.mpr ⟨fun eq => (Option.some.inj eq).symm, fun eq => congrArg some eq.symm⟩

/-- The others are put aside under it. -/
lemma asideKey_eq (own : quantizedBase candidate = some base)
    (found : (bestCopies candidates).lookup base = some copy) :
    asideKey (bestCopies candidates) candidate = if candidate = copy then none else some (casefold copy.repoId) := by
  rw [asideKey, own]
  dsimp only
  rw [found]
  dsimp only
  by_cases same : copy = candidate
  · rw [if_pos same, if_pos same.symm]
  · rw [if_neg same, if_neg fun eq => same eq.symm]

/-- A candidate is kept or set aside. -/
lemma isSome_asideKey (mem : candidate ∈ candidates) :
    (asideKey (bestCopies candidates) candidate).isSome = !isKept (bestCopies candidates) candidate := by
  cases own : quantizedBase candidate with
  | none =>
    rw [asideKey, isKept, own]
    rfl
  | some base =>
    obtain ⟨copy, found⟩ := exists_best mem own
    rw [isKept_eq own found, asideKey_eq own found]
    split
    · rename_i same
      rw [decide_eq_true same]
      rfl
    · rename_i other
      rw [decide_eq_false other]
      rfl

/-- Who is set aside behind the best copy of a base. -/
lemma asideKey_eq_some_iff (distinct : Distinct candidates) (mem : candidate ∈ candidates)
    (found : (bestCopies candidates).lookup base = some copy) :
    asideKey (bestCopies candidates) candidate = some (casefold copy.repoId) ↔
      quantizedBase candidate = some base ∧ candidate ≠ copy := by
  have leads := leads_bestCopies candidates base
  rw [found] at leads
  constructor
  · intro aside
    cases own : quantizedBase candidate with
    | none =>
      rw [asideKey, own] at aside
      cases aside
    | some base' =>
      obtain ⟨copy', found'⟩ := exists_best mem own
      have leads' := leads_bestCopies candidates base'
      rw [found'] at leads'
      rw [asideKey_eq own found'] at aside
      split at aside
      · cases aside
      · rename_i other
        -- copies of one folded name are one copy, and a copy has one base
        have same := distinct.eq leads'.1 leads.1 (Option.some.inj aside)
        subst same
        have bases := leads'.2.1.symm.trans leads.2.1
        exact ⟨bases, other⟩
  · rintro ⟨own, other⟩
    rw [asideKey_eq own found, if_neg other]

/-- The best copies do not depend on the order. -/
lemma lookup_bestCopies_perm (distinct : Distinct candidates) (perm : candidates'.Perm candidates) (base : String) :
    (bestCopies candidates').lookup base = (bestCopies candidates).lookup base := by
  refine ((leads_bestCopies candidates base).unique (leads_bestCopies candidates' base) ?_ ?_).symm
  · intro candidate
    exact perm.mem_iff.symm
  · intro a mem b mem' same
    exact distinct.eq_of_copyOrder mem mem' same

end Best

section Collapse
variable {candidates candidates' : List SearchCandidate} {candidate copy : SearchCandidate} {base : String}

/-- The copies set aside behind a kept one. -/
def Reuploads.alternativesOf (reuploads : Reuploads) (copy : SearchCandidate) : List SearchCandidate :=
  (reuploads.alternatives.lookup (casefold copy.repoId)).getD []

/-- What is found under a key are the candidates set aside under it, the most popular first. -/
lemma lookup_alternatives (candidates : List SearchCandidate) (key : String) :
    ((collapseQuantizedReuploads candidates).alternatives.lookup key).getD [] =
      sortedBy copyOrder
        (candidates.filter fun candidate => asideKey (bestCopies candidates) candidate = some key) := by
  rw [← getD_lookup_grouped]
  change (List.lookup key ((grouped _ _).map _)).getD [] = _
  rw [lookup_map_group]
  change (Option.map _ ((grouped (asideKey (bestCopies candidates)) candidates).lookup key)).getD [] = _
  cases (grouped (asideKey (bestCopies candidates)) candidates).lookup key with
  | none => rfl
  | some siblings => rfl

/-- What a search shows of the copies of one model. -/
structure Collapses (candidates : List SearchCandidate) (reuploads : Reuploads) : Prop where
  partition : (reuploads.kept ++ reuploads.alternatives.flatMap Prod.snd).Perm candidates
  ordered : reuploads.kept.Sublist candidates
  unmarked : ∀ candidate ∈ candidates, Unmarked candidate → candidate ∈ reuploads.kept
  best : ∀ candidate ∈ candidates, ∀ base, quantizedBase candidate = some base →
    ∃ copy, reuploads.kept.filter (quantizedBase · = some base) = [copy] ∧
      (copy :: reuploads.alternativesOf copy).Perm (candidates.filter (quantizedBase · = some base)) ∧
      (copy :: reuploads.alternativesOf copy).Pairwise MorePopular

/-- Every candidate is kept or put aside, once. -/
lemma collapse_partition (candidates : List SearchCandidate) :
    ((collapseQuantizedReuploads candidates).kept ++
      (collapseQuantizedReuploads candidates).alternatives.flatMap Prod.snd).Perm candidates := by
  have aside := (flatMap_map_group_perm (sortedBy_perm copyOrder)
    (grouped (asideKey (bestCopies candidates)) candidates)).trans
    (flatMap_grouped_filter _ _)
  have split : candidates.filter (fun candidate => (asideKey (bestCopies candidates) candidate).isSome) =
      candidates.filter fun candidate => !isKept (bestCopies candidates) candidate :=
    List.filter_congr fun candidate mem => isSome_asideKey mem
  rw [split] at aside
  exact (aside.append_left _).trans (List.filter_append_perm _ candidates)

/-- The kept copy of a base. -/
lemma kept_of_base (distinct : Distinct candidates) (found : (bestCopies candidates).lookup base = some copy) :
    (collapseQuantizedReuploads candidates).kept.filter (quantizedBase · = some base) = [copy] := by
  have leads := leads_bestCopies candidates base
  rw [found] at leads
  change (candidates.filter (isKept (bestCopies candidates))).filter _ = _
  have own : (candidates.filter (isKept (bestCopies candidates))).filter (quantizedBase · = some base) =
      candidates.filter (· = copy) := by
    rw [List.filter_filter]
    apply List.filter_congr
    intro candidate mem
    by_cases same : quantizedBase candidate = some base
    · rw [isKept_eq same found, decide_eq_true same, Bool.true_and]
    · have apart : candidate ≠ copy := by
        rintro rfl
        exact same leads.2.1
      rw [decide_eq_false same, decide_eq_false apart, Bool.false_and]
  rw [own, List.filter_eq, distinct.nodup.count, if_pos leads.1]
  rfl

/-- The copies of a base, the best one first. -/
lemma copies_of_base (distinct : Distinct candidates) (found : (bestCopies candidates).lookup base = some copy) :
    copy :: (collapseQuantizedReuploads candidates).alternativesOf copy =
      sortedBy copyOrder (candidates.filter (quantizedBase · = some base)) := by
  have leads := leads_bestCopies candidates base
  rw [found] at leads
  rw [Reuploads.alternativesOf, lookup_alternatives]
  -- what is put aside for the copy are the others of its base
  have siblings : candidates.filter (fun candidate => asideKey (bestCopies candidates) candidate =
      some (casefold copy.repoId)) =
      (candidates.filter (quantizedBase · = some base)).filter (· != copy) := by
    rw [List.filter_filter]
    apply List.filter_congr
    intro candidate mem
    rw [Bool.eq_iff_iff, decide_eq_true_eq, Bool.and_eq_true, decide_eq_true_eq, bne_iff_ne,
      asideKey_eq_some_iff distinct mem found, and_comm]
  rw [siblings]
  have mem : copy ∈ candidates.filter (quantizedBase · = some base) :=
    List.mem_filter.mpr ⟨leads.1, decide_eq_true leads.2.1⟩
  have nodup := distinct.nodup.filter fun candidate => quantizedBase candidate = some base
  have perm : (copy :: sortedBy copyOrder ((candidates.filter (quantizedBase · = some base)).filter (· != copy))).Perm
      (candidates.filter (quantizedBase · = some base)) := by
    refine ((sortedBy_perm copyOrder _).cons copy).trans ?_
    rw [← nodup.erase_eq_filter]
    exact (List.perm_cons_erase mem).symm
  -- the copy comes first, being the leader, and the others are sorted
  have sorted : (copy :: sortedBy copyOrder ((candidates.filter (quantizedBase · = some base)).filter
      (· != copy))).Pairwise fun a b => copyOrder a ≤ copyOrder b := by
    refine List.pairwise_cons.mpr ⟨?_, sortedBy_pairwise copyOrder _⟩
    intro sibling there
    have inBase := (List.mem_filter.mp (List.mem_of_mem_filter (mem_sortedBy.mp there)))
    exact leads.2.2 sibling inBase.1 (of_decide_eq_true inBase.2)
  rw [← sortedBy_eq_self sorted]
  exact sortedBy_eq_of_perm perm (distinct.nodup_copyOrder.sublist (List.filter_sublist.map copyOrder))

/-- Sorted candidates of distinct names are in the order of their popularity. -/
lemma pairwise_morePopular {copies : List SearchCandidate} (nodup : (copies.map copyOrder).Nodup) :
    (sortedBy copyOrder copies).Pairwise MorePopular := by
  have apart : ((sortedBy copyOrder copies).map copyOrder).Nodup :=
    ((sortedBy_perm copyOrder copies).map copyOrder).nodup_iff.mpr nodup
  rw [List.Nodup, List.pairwise_map] at apart
  refine ((sortedBy_pairwise copyOrder copies).and apart).imp ?_
  rintro a b ⟨le, ne⟩
  exact copyOrder_lt_iff.mp (lt_of_le_of_ne le ne)

/-- What is kept of a base, and what is put aside. -/
lemma collapse_best (distinct : Distinct candidates) (mem : candidate ∈ candidates)
    (own : quantizedBase candidate = some base) :
    ∃ copy, (collapseQuantizedReuploads candidates).kept.filter (quantizedBase · = some base) = [copy] ∧
      (copy :: (collapseQuantizedReuploads candidates).alternativesOf copy).Perm
        (candidates.filter (quantizedBase · = some base)) ∧
      (copy :: (collapseQuantizedReuploads candidates).alternativesOf copy).Pairwise MorePopular := by
  obtain ⟨copy, found⟩ := exists_best mem own
  refine ⟨copy, kept_of_base distinct found, ?_⟩
  rw [copies_of_base distinct found]
  refine ⟨sortedBy_perm copyOrder _, pairwise_morePopular ?_⟩
  exact distinct.nodup_copyOrder.sublist (List.filter_sublist.map copyOrder)

/-- A search that lists the candidates in another order keeps the same ones, with the same alternatives. -/
structure SameCopies (reuploads reuploads' : Reuploads) : Prop where
  kept : reuploads'.kept.Perm reuploads.kept
  alternatives : ∀ copy, reuploads'.alternativesOf copy = reuploads.alternativesOf copy

/-- What is kept does not depend on the order. -/
lemma isKept_perm (distinct : Distinct candidates) (perm : candidates'.Perm candidates) (candidate : SearchCandidate) :
    isKept (bestCopies candidates') candidate = isKept (bestCopies candidates) candidate := by
  rw [isKept, isKept]
  cases quantizedBase candidate with
  | none => rfl
  | some base =>
    dsimp only
    rw [lookup_bestCopies_perm distinct perm]

/-- Nor does what is put aside. -/
lemma asideKey_perm (distinct : Distinct candidates) (perm : candidates'.Perm candidates)
    (candidate : SearchCandidate) :
    asideKey (bestCopies candidates') candidate = asideKey (bestCopies candidates) candidate := by
  rw [asideKey, asideKey]
  cases quantizedBase candidate with
  | none => rfl
  | some base =>
    dsimp only
    rw [lookup_bestCopies_perm distinct perm]

/-- Nor does the collapse. -/
lemma collapse_perm (distinct : Distinct candidates) (perm : candidates'.Perm candidates) :
    SameCopies (collapseQuantizedReuploads candidates) (collapseQuantizedReuploads candidates') where
  kept := by
    change (candidates'.filter (isKept (bestCopies candidates'))).Perm
      (candidates.filter (isKept (bestCopies candidates)))
    rw [funext (isKept_perm distinct perm)]
    exact perm.filter _
  alternatives copy := by
    rw [Reuploads.alternativesOf, Reuploads.alternativesOf, lookup_alternatives, lookup_alternatives]
    simp only [asideKey_perm distinct perm]
    apply sortedBy_eq_of_perm (perm.filter _)
    exact distinct.nodup_copyOrder.sublist (List.filter_sublist.map copyOrder)

/-- The copies of one model are set aside behind the most popular one: nothing is lost, the order is kept, and
the outcome does not depend on it. -/
theorem collapseQuantizedReuploads_collapses (distinct : Distinct candidates) :
    Collapses candidates (collapseQuantizedReuploads candidates) ∧
      ∀ candidates', candidates'.Perm candidates →
        SameCopies (collapseQuantizedReuploads candidates) (collapseQuantizedReuploads candidates') := by
  refine ⟨⟨collapse_partition candidates, List.filter_sublist, ?_, ?_⟩, ?_⟩
  · intro candidate mem unmarked
    refine List.mem_filter.mpr ⟨mem, ?_⟩
    rw [isKept, quantizedBase_eq_none unmarked]
  · intro candidate mem base own
    exact collapse_best distinct mem own
  · intro candidates' perm
    exact collapse_perm distinct perm

/-- A copy with so many downloads. -/
def copyOf (repoId : String) (downloads : ℤ) : SearchCandidate :=
  { repoId := repoId, tags := ["gguf", "base_model:quantized:Org/Base"], downloads := downloads }

/-- Two copies of one model. -/
theorem twoCopies_collapse :
    Distinct [copyOf "a/x" 1, copyOf "b/x" 2] ∧
      Collapses [copyOf "a/x" 1, copyOf "b/x" 2]
        (collapseQuantizedReuploads [copyOf "a/x" 1, copyOf "b/x" 2]) ∧
      ∀ candidates', candidates'.Perm [copyOf "a/x" 1, copyOf "b/x" 2] →
        SameCopies (collapseQuantizedReuploads [copyOf "a/x" 1, copyOf "b/x" 2])
          (collapseQuantizedReuploads candidates') := by
  have distinct : Distinct [copyOf "a/x" 1, copyOf "b/x" 2] := by
    rw [Distinct]
    decide
  exact ⟨distinct, collapseQuantizedReuploads_collapses distinct⟩

end Collapse

end Jaull.Discovery
