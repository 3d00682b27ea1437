import Jaull.Huggingface.Classifiers
import Mathlib.Algebra.BigOperators.Group.List.Basic

/-!
# Representations that can be loaded

The grouping of the GGUF files of a repository is a partition into whole files and sets of shards, up to one
case: two whole files of one folder whose names differ only in the letter case of `.gguf` share a bucket, and
the sizes of two models are added.
-/

namespace Jaull.Huggingface
open Jaull.Domain Jaull.Lib Jaull.Text

section Suffixes
variable {stem : List Char} {name : List Char}

/-- A stem this short names no part. -/
lemma multipartAt_eq_none (short : stem.length < 15) : multipartAt stem = none := by
  rw [multipartAt]
  rw [if_neg]
  rintro ⟨-, -, -, five, -⟩
  rw [List.length_take, List.length_drop] at five
  omega

/-- A short name has no shard suffix. -/
lemma multipart_eq_none (short : stem.length < 15) : multipart stem = none := by
  induction stem with
  | nil => rfl
  | cons c rest ih =>
    rw [List.length_cons] at short
    rw [multipart, multipartAt_eq_none (by rw [List.length_cons]; exact short), ih (by omega)]
    rfl

/-- What stands before the extension, as the two loops of the grouping read it. -/
lemma multipart_stemOf (ends : ".gguf".toList <:+ name.flatMap lowerChar) :
    multipart (PurePath.stemOf name) = multipart (ggufStem name) := by
  have plain : (".gguf".toList.all isPlain) = true := by decide
  obtain ⟨stem, extension, rfl, forms⟩ := exists_lower_ending ends (List.all_eq_true.mp plain)
  have five : extension.length = 5 := by
    have lengths := congrArg List.length forms
    rw [List.length_map, List.length_map] at lengths
    exact lengths
  have front : ggufStem (stem ++ extension) = stem := by
    rw [ggufStem, List.length_append, five, Nat.add_sub_cancel, List.take_left]
  obtain ⟨dot, letters, rfl⟩ : ∃ dot letters, extension = dot :: letters := by
    cases extension with
    | nil => cases five
    | cons dot letters => exact ⟨dot, letters, rfl⟩
  rw [List.map_cons] at forms
  obtain ⟨first, others⟩ := List.cons.inj forms
  have isDot : dot = '.' := eq_of_lowerChar first (by decide) (by decide)
  subst isDot
  have clear : '.' ∉ letters := by
    intro mem
    have form : lowerChar '.' ∈ letters.map lowerChar := List.mem_map_of_mem mem
    rw [others] at form
    revert form
    decide
  have some : letters ≠ [] := by
    rintro rfl
    cases five
  rw [front]
  by_cases none : stem = []
  · subst none
    have short := PurePath.length_stemOf_le ('.' :: letters)
    rw [List.length_cons] at five short
    rw [List.nil_append, multipart_eq_none (by omega)]
    rfl
  · rw [PurePath.stemOf_append none some clear]

/-- The shard suffix of a file of weights is the one its key is made of. -/
lemma partOf_eq {file : ModelFile} (weights : isWeightsFile file = true) :
    partOf file = multipart (ggufStem (PurePath.ofText file.path).name) := by
  rw [isWeightsFile, Bool.and_eq_true] at weights
  exact multipart_stemOf (List.isSuffixOf_iff_suffix.mp weights.1)

end Suffixes

section Keys
variable {file file' : ModelFile} {key : VariantKey}

/-- The folder of a file. -/
def folder (file : ModelFile) : String :=
  (PurePath.ofText file.path).parent.text

/-- The name of a file without its extension. -/
def weightsName (file : ModelFile) : List Char :=
  ggufStem (PurePath.ofText file.path).name

/-- The number of shards of a key, `-1` for a whole file. -/
def keyCount (key : VariantKey) : ℤ :=
  (ofLex (ofLex (ofLex key).2).2).2

/-- A variant's count is that of its parts, and -1 for a whole file. -/
lemma keyCount_variantKey (weights : isWeightsFile file = true) :
    keyCount (variantKey file) = ((partOf file).map fun part => (part.count : ℤ)).getD (-1) := by
  rw [partOf_eq weights]
  rfl

/-- A file is a whole file or a shard as its key says. -/
lemma partOf_of_key (weights : isWeightsFile file = true) (own : variantKey file = key) :
    (partOf file = none ∧ keyCount key = -1) ∨ ∃ part, partOf file = some part ∧ keyCount key = part.count := by
  subst own
  rw [keyCount_variantKey weights]
  cases partOf file with
  | none => exact .inl ⟨rfl, rfl⟩
  | some part => exact .inr ⟨part, rfl, rfl⟩

/-- Whole files share a key when they share their folder and their name. -/
lemma variantKey_eq_iff (weights : isWeightsFile file = true) (weights' : isWeightsFile file' = true)
    (whole : partOf file = none) (whole' : partOf file' = none) :
    variantKey file = variantKey file' ↔ folder file = folder file' ∧ weightsName file = weightsName file' := by
  rw [partOf_eq weights] at whole
  rw [partOf_eq weights'] at whole'
  change multipart (weightsName file) = none at whole
  change multipart (weightsName file') = none at whole'
  have base : baseOf (weightsName file) = weightsName file := by rw [baseOf, whole]; rfl
  have base' : baseOf (weightsName file') = weightsName file' := by rw [baseOf, whole']; rfl
  constructor
  · intro same
    have folders := congrArg (fun key : VariantKey => (ofLex (ofLex key).2).1) same
    have names := congrArg (fun key : VariantKey => (ofLex (ofLex (ofLex key).2).2).1) same
    refine ⟨folders, ?_⟩
    change String.ofList (baseOf (weightsName file)) = String.ofList (baseOf (weightsName file')) at names
    rw [base, base'] at names
    exact String.ofList_injective names
  · rintro ⟨folders, names⟩
    have parts : ∀ file, variantKey file = toLex (detectQuantization (PurePath.ofText file.path).name,
        toLex (folder file, toLex (String.ofList (baseOf (weightsName file)),
          ((multipart (weightsName file)).map fun found => (found.count : ℤ)).getD (-1)))) := fun _ => rfl
    have quant : detectQuantization (PurePath.ofText file.path).name =
        detectQuantization (PurePath.ofText file'.path).name := by
      have stems : ggufStem (PurePath.ofText file.path).name = ggufStem (PurePath.ofText file'.path).name := names
      rw [detectQuantization, detectQuantization, stems]
    rw [parts, parts, quant, folders, names]

end Keys

section Buckets
variable {key : VariantKey} {group files : List ModelFile}

/-- The files of a representation, in the order of the repository. -/
structure Bucket (key : VariantKey) (group : List ModelFile) : Prop where
  some : group ≠ []
  own : ∀ file ∈ group, isWeightsFile file = true ∧ variantKey file = key

/-- Every representation is of whole files, or of the shards of one count. -/
lemma Bucket.whole_or_split (bucket : Bucket key group) :
    (keyCount key = -1 ∧ ∀ file ∈ group, partOf file = none) ∨
      ∃ count : ℕ, keyCount key = count ∧ ∀ file ∈ group, ∃ part, partOf file = .some part ∧ part.count = count := by
  obtain ⟨first, mem⟩ := List.exists_mem_of_ne_nil group bucket.some
  rcases partOf_of_key (bucket.own first mem).1 (bucket.own first mem).2 with ⟨-, whole⟩ | ⟨part, -, count⟩
  · refine .inl ⟨whole, ?_⟩
    intro file mem
    rcases partOf_of_key (bucket.own file mem).1 (bucket.own file mem).2 with ⟨none, -⟩ | ⟨part, -, count⟩
    · exact none
    · omega
  · refine .inr ⟨part.count, count, ?_⟩
    intro file mem
    rcases partOf_of_key (bucket.own file mem).1 (bucket.own file mem).2 with ⟨-, whole⟩ | ⟨part', found, count'⟩
    · omega
    · exact ⟨part', found, by omega⟩

/-- What a set of shards says: that it is one, and whether its indexes are those from 1 to the count. -/
lemma variantOf_split {count : ℕ} (some : group ≠ []) (counted : keyCount key = count)
    (shards : ∀ file ∈ group, ∃ part, partOf file = .some part ∧ part.count = count) :
    (variantOf key group).isSplit = true ∧ ((variantOf key group).isComplete = true ↔
      (group.filterMap fun file => (partOf file).map (·.index)).Perm (List.range' 1 count)) := by
  have split : (group.map partOf).any (·.isSome) = true := by
    obtain ⟨first, mem⟩ := List.exists_mem_of_ne_nil group some
    obtain ⟨part, found, -⟩ := shards first mem
    rw [List.any_map, List.any_eq_true]
    refine ⟨first, mem, ?_⟩
    change (partOf first).isSome = true
    rw [found]
    rfl
  have indexes : (group.map partOf).filterMap (·.map (·.index)) =
      group.filterMap fun file => (partOf file).map (·.index) := by
    rw [List.filterMap_map]
    rfl
  obtain ⟨first, mem⟩ := List.exists_mem_of_ne_nil group some
  obtain ⟨part, found, -⟩ := shards first mem
  have pos : 0 < (group.filterMap fun file => (partOf file).map (·.index)).length := by
    apply List.length_pos_of_mem (a := part.index)
    rw [List.mem_filterMap]
    exact ⟨first, mem, by rw [found]; rfl⟩
  refine ⟨split, ?_⟩
  change ((!(group.map partOf).any (·.isSome)) || (0 < keyCount key &&
    (((group.map partOf).filterMap (·.map (·.index))).length : ℤ) = keyCount key &&
      sortedBy id ((group.map partOf).filterMap (·.map (·.index))) = List.range' 1 (keyCount key).toNat)) = true ↔ _
  rw [split, indexes, counted, Bool.not_true, Bool.false_or, Int.toNat_natCast, Bool.and_eq_true, Bool.and_eq_true,
    decide_eq_true_eq, decide_eq_true_eq, decide_eq_true_eq]
  constructor
  · rintro ⟨-, sorted⟩
    rw [← sorted]
    exact (sortedBy_perm id _).symm
  · intro perm
    have length := perm.length_eq
    rw [List.length_range'] at length
    refine ⟨⟨by omega, by omega⟩, ?_⟩
    -- sorted, the parts are the numbers up to the count
    have ascending : (List.range' 1 count).Pairwise fun a b => id a ≤ id b := by
      have strict : (List.range' 1 count).Pairwise (· < ·) := List.pairwise_lt_range'
      exact strict.imp fun lt => le_of_lt lt
    have nodup : ((List.range' 1 count).map id).Nodup := by
      rw [List.map_id]
      exact List.nodup_range'
    rw [sortedBy_eq_of_perm perm nodup, sortedBy_eq_self ascending]

/-- What a representation of whole files says. -/
lemma variantOf_whole (whole : ∀ file ∈ group, partOf file = none) :
    (variantOf key group).isSplit = false := by
  change (group.map partOf).any (·.isSome) = false
  rw [List.any_map, List.any_eq_false]
  intro file mem
  change ¬(partOf file).isSome = true
  rw [whole file mem]
  exact Bool.false_ne_true

/-- The total is that of a complete representation whose sizes are known and positive. -/
lemma variantOf_total (key : VariantKey) (group : List ModelFile) (total : ℤ) :
    (variantOf key group).totalBytes = some total ↔ (variantOf key group).isComplete = true ∧
      (∀ file ∈ (variantOf key group).files, ∃ size, file.sizeBytes = some size ∧ 0 < size) ∧
        total = ((variantOf key group).files.filterMap (·.sizeBytes)).sum := by
  have sorted : ((sortedBy (·.path) group).filterMap (·.sizeBytes)).sum =
      ((group.map (·.sizeBytes)).filterMap id).sum := by
    rw [List.filterMap_map]
    exact ((sortedBy_perm _ group).filterMap _).sum_eq
  have sizes : (group.map (·.sizeBytes)).all (·.any (0 < ·)) = true ↔
      ∀ file ∈ sortedBy (·.path) group, ∃ size, file.sizeBytes = some size ∧ 0 < size := by
    rw [List.all_map, List.all_eq_true]
    constructor
    · intro all file mem
      have known := all file (mem_sortedBy.mp mem)
      obtain ⟨size, eq, pos⟩ := (Option.any_eq_true _ _).mp known
      exact ⟨size, eq, of_decide_eq_true pos⟩
    · intro all file mem
      obtain ⟨size, eq, pos⟩ := all file (mem_sortedBy.mpr mem)
      exact (Option.any_eq_true _ _).mpr ⟨size, eq, decide_eq_true pos⟩
  change (if ((variantOf key group).isComplete && (group.map (·.sizeBytes)).all (·.any (0 < ·))) = true then
    some ((group.map (·.sizeBytes)).filterMap id).sum else none) = some total ↔
      (variantOf key group).isComplete = true ∧
        (∀ file ∈ sortedBy (·.path) group, ∃ size, file.sizeBytes = some size ∧ 0 < size) ∧
          total = ((sortedBy (·.path) group).filterMap (·.sizeBytes)).sum
  rw [sorted, ← sizes]
  constructor
  · intro eq
    split at eq
    · rename_i known
      obtain ⟨complete, positive⟩ := Bool.and_eq_true_iff.mp known
      exact ⟨complete, positive, (Option.some.inj eq).symm⟩
    · cases eq
  · rintro ⟨complete, positive, rfl⟩
    rw [if_pos (Bool.and_eq_true_iff.mpr ⟨complete, positive⟩)]

end Buckets

section Groups
variable {files : List ModelFile} {variant : GgufVariant}

/-- The files of weights with a key. -/
def filesOf (files : List ModelFile) (key : VariantKey) : List ModelFile :=
  files.filter fun file => isWeightsFile file && variantKey file = key

/-- A group is that of a key with files. -/
lemma mem_groupGgufVariants : variant ∈ groupGgufVariants files ↔
    ∃ key, filesOf files key ≠ [] ∧ variant = variantOf key (filesOf files key) := by
  have same : ∀ key, files.filter (fun file =>
      (if isWeightsFile file then some (variantKey file) else none) = some key) = filesOf files key := by
    intro key
    apply List.filter_congr
    intro file mem
    cases isWeightsFile file with
    | true => simp
    | false => simp
  rw [groupGgufVariants, List.mem_map]
  constructor
  · rintro ⟨⟨key, group⟩, mem, rfl⟩
    obtain ⟨rfl, some⟩ := mem_grouped.mp (mem_sortedBy.mp mem)
    rw [same] at some ⊢
    exact ⟨key, some, rfl⟩
  · rintro ⟨key, some, rfl⟩
    refine ⟨(key, filesOf files key), mem_sortedBy.mpr (mem_grouped.mpr ⟨?_, some⟩), rfl⟩
    exact (same key).symm

/-- The files of a key form its bucket. -/
lemma bucket_filesOf {key : VariantKey} (some : filesOf files key ≠ []) : Bucket key (filesOf files key) := by
  refine ⟨some, ?_⟩
  intro file mem
  have own := (List.mem_filter.mp mem).2
  rw [Bool.and_eq_true, decide_eq_true_eq] at own
  exact own

/-- Every file of weights is in one representation, and no other file is in any. -/
lemma flatMap_groupGgufVariants (files : List ModelFile) :
    ((groupGgufVariants files).flatMap (·.files)).Perm (files.filter isWeightsFile) := by
  have groups := flatMap_grouped_filter
    (fun file => if isWeightsFile file then some (variantKey file) else none) files
  have weights : (files.filter fun file => (if isWeightsFile file then some (variantKey file) else none).isSome) =
      files.filter isWeightsFile := by
    apply List.filter_congr
    intro file mem
    cases isWeightsFile file <;> rfl
  rw [weights] at groups
  refine List.Perm.trans ?_ groups
  rw [groupGgufVariants, List.flatMap_map]
  refine List.Perm.trans ?_ ((sortedBy_perm Prod.fst _).flatMap_right Prod.snd)
  apply List.Perm.flatMap_left
  intro bucket mem
  exact sortedBy_perm (·.path) bucket.2

end Groups

section Preferred
variable {variants : List GgufVariant} {variant : GgufVariant}

/-- The unique representation is one of the complete variants. -/
lemma uniqueGgufRepresentation_eq_some (unique : uniqueGgufRepresentation variants = some variant) :
    variant ∈ variants ∧ variant.isComplete = true := by
  have sub : ∀ {some : GgufVariant}, some ∈ variants.filter (·.isComplete) →
      some ∈ variants ∧ some.isComplete = true := fun mem => List.mem_filter.mp mem
  rw [uniqueGgufRepresentation] at unique
  split at unique
  · rename_i only eq
    cases unique
    apply sub
    have mem : variant ∈ [variant] := List.mem_cons_self
    rw [← eq] at mem
    split at mem
    · exact mem
    · exact (List.mem_filter.mp mem).1
  · cases unique

/-- The preferred representations: complete ones, and at most one for each quantization. -/
lemma preferredGgufVariants_spec (variants : List GgufVariant) :
    ((preferredGgufVariants variants).map (·.quantization)).Nodup ∧
      ∀ variant ∈ preferredGgufVariants variants, variant ∈ variants ∧ variant.isComplete = true := by
  have own : ∀ {quant : String} {variant : GgufVariant},
      uniqueGgufRepresentation (variants.filter (·.quantization = quant)) = some variant →
        (variant ∈ variants ∧ variant.quantization = quant) ∧ variant.isComplete = true := by
    intro quant variant unique
    obtain ⟨mem, complete⟩ := uniqueGgufRepresentation_eq_some unique
    obtain ⟨mem, same⟩ := List.mem_filter.mp mem
    exact ⟨⟨mem, of_decide_eq_true same⟩, complete⟩
  constructor
  · rw [preferredGgufVariants]
    have nodup : (sortedBy id (variants.map (·.quantization)).dedup).Nodup :=
      (sortedBy_perm id _).nodup_iff.mpr (List.nodup_dedup _)
    generalize sortedBy id (variants.map (·.quantization)).dedup = quants at nodup
    induction quants with
    | nil => exact List.nodup_nil
    | cons quant quants ih =>
      obtain ⟨fresh, nodup⟩ := List.nodup_cons.mp nodup
      rw [List.filterMap_cons]
      split
      · exact ih nodup
      · rename_i variant unique
        rw [List.map_cons, List.nodup_cons]
        refine ⟨?_, ih nodup⟩
        intro mem
        obtain ⟨other, mem, same⟩ := List.mem_map.mp mem
        obtain ⟨quant', mem, unique'⟩ := List.mem_filterMap.mp mem
        rw [(own unique').1.2, (own unique).1.2] at same
        rw [same] at mem
        exact fresh mem
  · intro variant mem
    obtain ⟨quant, -, unique⟩ := List.mem_filterMap.mp mem
    exact ⟨(own unique).1.1, (own unique).2⟩

end Preferred

section Partition

/-- Representations that can be loaded, of the files of a repository. -/
structure LoadableParts (files : List ModelFile) (variants : List GgufVariant) : Prop where
  /-- Every file of weights is in one of them, and no other file is in any. -/
  partition : (variants.flatMap (·.files)).Perm (files.filter isWeightsFile)
  whole : ∀ variant ∈ variants, variant.isSplit = false → variant.files.length = 1
  split : ∀ variant ∈ variants, variant.isSplit = true → ∃ count : ℕ,
    (∀ file ∈ variant.files, ∃ part, partOf file = some part ∧ part.count = count) ∧
      (variant.isComplete = true ↔
        (variant.files.filterMap fun file => (partOf file).map (·.index)).Perm (List.range' 1 count))
  total : ∀ variant ∈ variants, ∀ total, variant.totalBytes = some total ↔ variant.isComplete = true ∧
    (∀ file ∈ variant.files, ∃ size, file.sizeBytes = some size ∧ 0 < size) ∧
      total = (variant.files.filterMap (·.sizeBytes)).sum
  preferred : ((preferredGgufVariants variants).map (·.quantization)).Nodup ∧
    ∀ variant ∈ preferredGgufVariants variants, variant ∈ variants ∧ variant.isComplete = true

/-- A whole file of weights: one without a shard suffix. -/
def isWholeFile (file : ModelFile) : Bool :=
  isWeightsFile file && (partOf file).isNone

/-- No two whole files of one folder have names that differ only in the letter case of `.gguf`. -/
def WholeNamesDiffer (files : List ModelFile) : Prop :=
  ((files.filter isWholeFile).map fun file => (folder file, weightsName file)).Nodup

/-- No two files have one path. -/
def PathsDiffer (files : List ModelFile) : Prop :=
  (files.map (·.path)).Nodup

instance (files : List ModelFile) : Decidable (WholeNamesDiffer files) :=
  inferInstanceAs (Decidable (List.Nodup _))

instance (files : List ModelFile) : Decidable (PathsDiffer files) :=
  inferInstanceAs (Decidable (List.Nodup _))

variable {files : List ModelFile}

/-- A whole file is a weights file that is no part. -/
lemma isWholeFile_eq_true {file : ModelFile} :
    isWholeFile file = true ↔ isWeightsFile file = true ∧ partOf file = none := by
  rw [isWholeFile, Bool.and_eq_true, Option.isNone_iff_eq_none]

/-- A representation of whole files has one file when their names differ. -/
lemma length_of_whole (differ : PathsDiffer files) (names : WholeNamesDiffer files) {key : VariantKey}
    (some : filesOf files key ≠ []) (whole : ∀ file ∈ filesOf files key, partOf file = none) :
    (filesOf files key).length = 1 := by
  have nodup : (filesOf files key).Nodup := (List.Nodup.of_map _ differ).filter _
  have bucket := bucket_filesOf some
  have same : ∀ file ∈ filesOf files key, ∀ file' ∈ filesOf files key, file = file' := by
    intro file mem file' mem'
    obtain ⟨weights, own⟩ := bucket.own file mem
    obtain ⟨weights', own'⟩ := bucket.own file' mem'
    obtain ⟨folders, stems⟩ := (variantKey_eq_iff weights weights' (whole file mem) (whole file' mem')).mp
      (own.trans own'.symm)
    apply List.inj_on_of_nodup_map names
    · rw [List.mem_filter, isWholeFile_eq_true]
      exact ⟨(List.mem_filter.mp mem).1, weights, whole file mem⟩
    · rw [List.mem_filter, isWholeFile_eq_true]
      exact ⟨(List.mem_filter.mp mem').1, weights', whole file' mem'⟩
    · rw [folders, stems]
  cases eq : filesOf files key with
  | nil => exact absurd eq some
  | cons first rest => cases rest with
    | nil => rfl
    | cons second rest =>
      rw [eq] at nodup same
      have twice := same first List.mem_cons_self second (List.mem_cons_of_mem _ List.mem_cons_self)
      rw [twice] at nodup
      exact absurd List.mem_cons_self (List.nodup_cons.mp nodup).1

/-- Two whole files of one name are in one representation. -/
lemma names_of_whole (differ : PathsDiffer files)
    (one : ∀ variant ∈ groupGgufVariants files, variant.isSplit = false → variant.files.length = 1) :
    WholeNamesDiffer files := by
  have nodup : files.Nodup := List.Nodup.of_map _ differ
  apply List.Nodup.map_on
  · intro file mem file' mem' same
    obtain ⟨mem, whole⟩ := List.mem_filter.mp mem
    obtain ⟨mem', whole'⟩ := List.mem_filter.mp mem'
    obtain ⟨weights, none⟩ := isWholeFile_eq_true.mp whole
    obtain ⟨weights', none'⟩ := isWholeFile_eq_true.mp whole'
    have key := (variantKey_eq_iff weights weights' none none').mpr (Prod.mk.inj same)
    have own : file ∈ filesOf files (variantKey file') := by
      rw [filesOf, List.mem_filter, weights, key]
      exact ⟨mem, by rw [decide_eq_true rfl]; rfl⟩
    have own' : file' ∈ filesOf files (variantKey file') := by
      rw [filesOf, List.mem_filter, weights']
      exact ⟨mem', by rw [decide_eq_true rfl]; rfl⟩
    have some := List.ne_nil_of_mem own
    have allWhole : ∀ other ∈ filesOf files (variantKey file'), partOf other = Option.none := by
      intro other memO
      rcases (bucket_filesOf some).whole_or_split with ⟨-, all⟩ | ⟨count, -, all⟩
      · exact all other memO
      · obtain ⟨part, found, -⟩ := all file' own'
        rw [none'] at found
        cases found
    have length := one _ (mem_groupGgufVariants.mpr ⟨_, some, rfl⟩) (variantOf_whole allWhole)
    change (sortedBy (·.path) (filesOf files (variantKey file'))).length = 1 at length
    rw [length_sortedBy] at length
    obtain ⟨only, eq⟩ := List.length_eq_one_iff.mp length
    rw [eq, List.mem_singleton] at own own'
    rw [own, own']
  · exact nodup.filter _

/-- The grouping is a partition into representations that can be loaded, unless two whole files share a name. -/
theorem groupGgufVariants_partitions_iff (differ : PathsDiffer files) :
    LoadableParts files (groupGgufVariants files) ↔ WholeNamesDiffer files := by
  constructor
  · intro parts
    exact names_of_whole differ parts.whole
  · intro names
    refine ⟨flatMap_groupGgufVariants files, ?_, ?_, ?_, preferredGgufVariants_spec _⟩
    · intro variant mem whole
      obtain ⟨key, some, rfl⟩ := mem_groupGgufVariants.mp mem
      change (sortedBy (·.path) (filesOf files key)).length = 1
      rw [length_sortedBy]
      rcases (bucket_filesOf some).whole_or_split with ⟨-, all⟩ | ⟨count, counted, all⟩
      · exact length_of_whole differ names some all
      · rw [(variantOf_split some counted all).1] at whole
        cases whole
    · intro variant mem split
      obtain ⟨key, some, rfl⟩ := mem_groupGgufVariants.mp mem
      rcases (bucket_filesOf some).whole_or_split with ⟨-, all⟩ | ⟨count, counted, all⟩
      · rw [variantOf_whole all] at split
        cases split
      · refine ⟨count, fun file mem => all file (mem_sortedBy.mp mem), ?_⟩
        rw [(variantOf_split some counted all).2]
        exact (((sortedBy_perm (·.path) (filesOf files key)).filterMap _).congr_left _).symm
    · intro variant mem total
      obtain ⟨key, some, rfl⟩ := mem_groupGgufVariants.mp mem
      exact variantOf_total key _ total

/-- A repository with a whole file and a set of two shards. -/
def shardedRepository : List ModelFile :=
  [{ path := "Q8_0/m-Q8_0-00001-of-00002.gguf", sizeBytes := some 4 }, { path := "m-Q4_K_M.gguf", sizeBytes := some 3 },
    { path := "Q8_0/m-Q8_0-00002-of-00002.gguf", sizeBytes := some 5 }, { path := "mmproj-m.gguf" }]

/-- A sharded repository beside whole files, partitioned. -/
theorem shardedRepository_partitioned : LoadableParts shardedRepository (groupGgufVariants shardedRepository) :=
  (groupGgufVariants_partitions_iff (by decide)).mpr (by decide +kernel)

/-- Two files that differ in the letter case of the extension are taken for one model of their total size. -/
theorem twoCases_added : ¬LoadableParts
    [{ path := "m-Q4_K_M.gguf", sizeBytes := some 5 }, { path := "m-Q4_K_M.GGUF", sizeBytes := some 6 }]
    (groupGgufVariants
      [{ path := "m-Q4_K_M.gguf", sizeBytes := some 5 }, { path := "m-Q4_K_M.GGUF", sizeBytes := some 6 }]) := by
  intro parts
  have names := names_of_whole (by decide) parts.whole
  revert names
  decide +kernel

end Partition

end Jaull.Huggingface
