import Mathlib.Data.List.Basic
import Mathlib.Data.List.Forall2
import Mathlib.Tactic.Common

/-!
# Maps that tell the members of a list apart

Mathlib commutes `map` with `erase` for maps that are injective everywhere. The maps of this development
are injective on the members of one list only.
-/

namespace Jaull.Lib

universe u v
variable {α : Type u} {β : Type v}

/-- `f` sends different members of `l` to different values. -/
def InjOn (f : α → β) (l : List α) : Prop :=
  ∀ a ∈ l, ∀ b ∈ l, f a = f b → a = b

/-- Injectivity on a part. -/
lemma InjOn.subset {f : α → β} {l l' : List α} (inj : InjOn f l) (sub : l' ⊆ l) : InjOn f l' :=
  fun a memA b memB => inj a (sub memA) b (sub memB)

/-- A filtered map that drops nothing is a map. -/
lemma map_filterMap_of_some {γ : Type*} {f : α → Option β} {g : β → γ} {h : α → γ} {l : List α}
    (some : ∀ a ∈ l, ∃ b, f a = some b ∧ g b = h a) : (l.filterMap f).map g = l.map h := by
  induction l with
  | nil => rfl
  | cons a rest ih =>
    obtain ⟨b, eq, same⟩ := some a List.mem_cons_self
    rw [List.filterMap_cons, eq]
    simp only [List.map_cons, same]
    rw [ih fun a' mem => some a' (List.mem_cons_of_mem a mem)]

section Related
variable {R : α → β → Prop} {as : List α} {bs : List β}

/-- A member on the right is related to one on the left. -/
lemma exists_of_mem_right (related : List.Forall₂ R as bs) {b : β} (mem : b ∈ bs) : ∃ a ∈ as, R a b := by
  induction related with
  | nil => cases mem
  | @cons a b' as bs first _ ih =>
    rcases List.mem_cons.mp mem with rfl | mem
    · exact ⟨a, List.mem_cons_self, first⟩
    · obtain ⟨a', there, relates⟩ := ih mem
      exact ⟨a', List.mem_cons_of_mem a there, relates⟩

/-- A member on the left is related to one on the right. -/
lemma exists_of_mem_left (related : List.Forall₂ R as bs) {a : α} (mem : a ∈ as) : ∃ b ∈ bs, R a b := by
  have flipped : List.Forall₂ (flip R) bs as := related.flip
  exact exists_of_mem_right flipped mem

end Related

section Fallible
variable {ε : Type*} {γ : Type*} {f : α → Except ε β}

/-- Mapping twice. -/
lemma except_map_map {δ : Type*} (result : Except ε β) (g : β → γ) (h : γ → δ) :
    (result.map g).map h = result.map fun b => h (g b) := by
  cases result with
  | error e => rfl
  | ok b => rfl

@[simp] lemma ok_bind {δ : Type v} (b : β) (g : β → Except ε δ) : (Except.ok b >>= g) = g b := rfl

@[simp] lemma error_bind {δ : Type v} (e : ε) (g : β → Except ε δ) :
    (Except.error e >>= g) = .error e := rfl

/-- A chain succeeds when each of its parts does. -/
lemma bind_eq_ok {δ : Type v} {result : Except ε β} {g : β → Except ε δ} {d : δ} :
    (result >>= g) = .ok d ↔ ∃ b, result = .ok b ∧ g b = .ok d := by
  cases result with
  | error e =>
    constructor
    · intro eq
      cases eq
    · intro ⟨b, eq, _⟩
      cases eq
  | ok b =>
    constructor
    · intro eq
      exact ⟨b, rfl, eq⟩
    · intro ⟨b', eq, done⟩
      cases eq
      exact done

/-- A mapped success comes from a success. -/
lemma exists_of_map_eq_ok {result : Except ε β} {g : β → γ} {c : γ} (eq : result.map g = .ok c) :
    ∃ b, result = .ok b ∧ g b = c := by
  cases result with
  | error e => cases eq
  | ok b => exact ⟨b, rfl, Except.ok.inj eq⟩

/-- A pass of checks succeeds when every member passes. -/
lemma forM_eq_ok {check : α → Except ε Unit} {l : List α} :
    l.forM check = .ok () ↔ ∀ a ∈ l, check a = .ok () := by
  induction l with
  | nil => exact iff_of_true rfl (List.forall_mem_nil _)
  | cons a rest ih =>
    have step : (a :: rest).forM check = (check a >>= fun _ => rest.forM check) := rfl
    rw [step, bind_eq_ok, ih, List.forall_mem_cons]
    exact ⟨fun ⟨_, now, later⟩ => ⟨now, later⟩, fun ⟨now, later⟩ => ⟨(), now, later⟩⟩

/-- Mapping the results of a pass maps each result. -/
lemma mapM_map_map (g : β → γ) (l : List α) :
    (l.mapM f).map (List.map g) = l.mapM fun a => (f a).map g := by
  induction l with
  | nil => rfl
  | cons a rest ih =>
    rw [List.mapM_cons, List.mapM_cons, ← ih]
    cases f a with
    | error e => rfl
    | ok b =>
      cases rest.mapM f with
      | error e => rfl
      | ok bs => rfl

/-- A pass succeeds with the results of its members. -/
lemma mapM_eq_ok_iff {l : List α} {results : List β} :
    l.mapM f = .ok results ↔ List.Forall₂ (fun a b => f a = .ok b) l results := by
  induction l generalizing results with
  | nil =>
    constructor
    · intro run
      cases run
      exact .nil
    · intro all
      cases all
      rfl
  | cons a rest ih =>
    rw [List.mapM_cons, bind_eq_ok]
    constructor
    · intro ⟨b, first, run⟩
      obtain ⟨bs, others, eq⟩ := bind_eq_ok.mp run
      cases eq
      exact .cons first (ih.mp others)
    · intro all
      cases all with
      | cons first others => exact ⟨_, first, bind_eq_ok.mpr ⟨_, ih.mpr others, rfl⟩⟩

/-- Every result of a pass is the result of a member. -/
lemma mem_of_mapM_ok {l : List α} {results : List β} (run : l.mapM f = .ok results) {b : β}
    (mem : b ∈ results) : ∃ a ∈ l, f a = .ok b :=
  exists_of_mem_right (mapM_eq_ok_iff.mp run) mem

/-- A traversal that succeeds does so on every element. -/
lemma forall_ok_of_mapM_ok {l : List α} {results : List β} (run : l.mapM f = .ok results) :
    ∀ a ∈ l, ∃ b, f a = .ok b := by
  intro a mem
  obtain ⟨b, -, eq⟩ := exists_of_mem_left (mapM_eq_ok_iff.mp run) mem
  exact ⟨b, eq⟩

/-- The results of a pass are the results of its members. -/
lemma mem_mapM_ok_iff {l : List α} {results : List β} (run : l.mapM f = .ok results) {b : β} :
    b ∈ results ↔ ∃ a ∈ l, f a = .ok b := by
  refine ⟨mem_of_mapM_ok run, ?_⟩
  rintro ⟨a, mem, eq⟩
  obtain ⟨b', there, eq'⟩ := exists_of_mem_left (mapM_eq_ok_iff.mp run) mem
  rw [eq] at eq'
  cases eq'
  exact there

/-- What stops a pass is the error of a member. -/
lemma exists_error_of_mapM_error {l : List α} {error : ε} (run : l.mapM f = .error error) :
    ∃ a ∈ l, f a = .error error := by
  induction l with
  | nil => cases run
  | cons a rest ih =>
    rw [List.mapM_cons] at run
    cases first : f a with
    | error e =>
      rw [first] at run
      cases run
      exact ⟨a, List.mem_cons_self, first⟩
    | ok b =>
      rw [first, ok_bind] at run
      cases others : rest.mapM f with
      | error e =>
        rw [others] at run
        cases run
        obtain ⟨a', mem, eq⟩ := ih others
        exact ⟨a', List.mem_cons_of_mem a mem, eq⟩
      | ok bs =>
        rw [others] at run
        cases run

/-- A pass in which every member succeeds collects the results. -/
lemma mapM_eq_ok {l : List α} (default : β) (all : ∀ a ∈ l, ∃ b, f a = .ok b) :
    l.mapM f = .ok (l.map fun a => (f a).toOption.getD default) := by
  induction l with
  | nil => rfl
  | cons a rest ih =>
    obtain ⟨b, eq⟩ := all a List.mem_cons_self
    rw [List.mapM_cons, ih fun a' mem => all a' (List.mem_cons_of_mem a mem), List.map_cons, eq]
    rfl

/-- Two passes whose results are related member by member. -/
lemma mapM_forall₂ {g : α → Except ε γ} {R : β → γ → Prop} {l : List α}
    (all : ∀ a ∈ l, ∃ b c, f a = .ok b ∧ g a = .ok c ∧ R b c) :
    ∃ bs cs, l.mapM f = .ok bs ∧ l.mapM g = .ok cs ∧ List.Forall₂ R bs cs := by
  induction l with
  | nil => exact ⟨[], [], rfl, rfl, .nil⟩
  | cons a rest ih =>
    obtain ⟨⟨b, c, eqB, eqC, related⟩, others⟩ := List.forall_mem_cons.mp all
    obtain ⟨bs, cs, runB, runC, relates⟩ := ih others
    refine ⟨b :: bs, c :: cs, ?_, ?_, .cons related relates⟩
    · rw [List.mapM_cons, eqB, ok_bind, runB]
      rfl
    · rw [List.mapM_cons, eqC, ok_bind, runC]
      rfl

/-- A pass that succeeds keeps every member's result. -/
lemma filterMap_toOption_of_mapM_ok {l : List α} {results : List β} (run : l.mapM f = .ok results) :
    l.filterMap (fun a => (f a).toOption) = results := by
  have pairs := mapM_eq_ok_iff.mp run
  clear run
  induction pairs with
  | nil => rfl
  | cons first _ ih =>
    rw [List.filterMap_cons, first, ih]
    rfl

/-- A pass in which every member succeeds succeeds. -/
lemma exists_mapM_ok {l : List α} (all : ∀ a ∈ l, ∃ b, f a = .ok b) : ∃ bs, l.mapM f = .ok bs := by
  have twice : ∀ a ∈ l, ∃ b c, f a = .ok b ∧ f a = .ok c ∧ True := by
    intro a mem
    obtain ⟨b, eq⟩ := all a mem
    exact ⟨b, b, eq, eq, trivial⟩
  obtain ⟨bs, -, run, -⟩ := mapM_forall₂ (R := fun _ _ => True) twice
  exact ⟨bs, run⟩

end Fallible

/-- What is related to one list twice is related by what it is related to. -/
lemma forall₂_join {γ : Type*} {R : α → γ → Prop} {S : β → γ → Prop} {T : α → β → Prop}
    {as : List α} {bs : List β} {cs : List γ} (left : List.Forall₂ R as cs)
    (right : List.Forall₂ S bs cs) (join : ∀ a ∈ as, ∀ b ∈ bs, ∀ c, R a c → S b c → T a b) :
    List.Forall₂ T as bs := by
  induction left generalizing bs with
  | nil =>
    cases right
    exact .nil
  | @cons a c as cs first _ ih =>
    cases right with
    | @cons b _ bs _ first' rest' =>
      refine .cons (join a List.mem_cons_self b List.mem_cons_self c first first') (ih rest' ?_)
      intro a memA b memB
      exact join a (List.mem_cons_of_mem _ memA) b (List.mem_cons_of_mem _ memB)

/-- Lists that are related member by member have one image under maps that agree on what is related. -/
lemma map_eq_of_forall₂ {γ : Type*} {R : α → β → Prop} {f : α → γ} {g : β → γ} {as : List α} {bs : List β}
    (related : List.Forall₂ R as bs) (same : ∀ a b, R a b → f a = g b) : as.map f = bs.map g := by
  induction related with
  | nil => rfl
  | cons first _ ih => rw [List.map_cons, List.map_cons, same _ _ first, ih]

/-- What is zipped from lists that are related member by member comes from related members. -/
lemma exists_of_mem_zipWith {γ : Type*} {R : α → β → Prop} {f : α → β → γ} {as : List α} {bs : List β}
    (related : List.Forall₂ R as bs) {c : γ} (mem : c ∈ as.zipWith f bs) :
    ∃ a ∈ as, ∃ b ∈ bs, R a b ∧ f a b = c := by
  induction related with
  | nil => cases mem
  | @cons a b as bs first _ ih =>
    rw [List.zipWith_cons_cons] at mem
    rcases List.mem_cons.mp mem with rfl | mem
    · exact ⟨a, List.mem_cons_self, b, List.mem_cons_self, first, rfl⟩
    · obtain ⟨a', memA, b', memB, relates, same⟩ := ih mem
      exact ⟨a', List.mem_cons_of_mem a memA, b', List.mem_cons_of_mem b memB, relates, same⟩

/-- With distinct keys at most one member has a key, so rearranging the list moves nothing among the
members of one key. -/
lemma filter_eq_of_perm {κ : Type*} [DecidableEq κ] {key : α → κ} {l l' : List α} (perm : l'.Perm l)
    (nodup : (l.map key).Nodup) (k : κ) : l'.filter (key · = k) = l.filter (key · = k) := by
  have perm := perm.filter (key · = k)
  cases members : l.filter (key · = k) with
  | nil =>
    rw [members] at perm
    exact perm.eq_nil
  | cons a rest =>
    have sub : ((l.filter (key · = k)).map key).Nodup := nodup.sublist (List.filter_sublist.map key)
    have isK : ∀ b ∈ l.filter (key · = k), key b = k :=
      fun b mem => of_decide_eq_true (List.mem_filter.mp mem).2
    rw [members] at perm sub isK
    cases rest with
    | nil => exact perm.eq_singleton
    | cons b rest =>
      have same : key a = key b := (isK a (by simp)).trans (isK b (by simp)).symm
      simp [same] at sub

/-- What yields nothing may be dropped before joining. -/
lemma flatMap_filter_of_nil {g : α → List β} {p : α → Bool} {l : List α}
    (nil : ∀ a ∈ l, p a = false → g a = []) : (l.filter p).flatMap g = l.flatMap g := by
  induction l with
  | nil => rfl
  | cons a rest ih =>
    have rest' := ih fun a' mem => nil a' (List.mem_cons_of_mem a mem)
    cases holds : p a with
    | true => rw [List.filter_cons_of_pos holds, List.flatMap_cons, List.flatMap_cons, rest']
    | false =>
      rw [List.filter_cons_of_neg (by simp [holds]), List.flatMap_cons,
        nil a List.mem_cons_self holds, List.nil_append, rest']

/-- With distinct keys, joining what only the members of one key yield does not depend on the order. -/
lemma flatMap_eq_of_perm {κ : Type*} [DecidableEq κ] {key : α → κ} {g : α → List β} {l l' : List α}
    (perm : l'.Perm l) (nodup : (l.map key).Nodup) (k : κ)
    (others : ∀ a ∈ l, key a ≠ k → g a = []) : l'.flatMap g = l.flatMap g := by
  have drop : ∀ m : List α, m ⊆ l → (m.filter (key · = k)).flatMap g = m.flatMap g :=
    fun m sub => flatMap_filter_of_nil fun a mem apart =>
      others a (sub mem) (of_decide_eq_false apart)
  rw [← drop l' perm.subset, ← drop l (List.Subset.refl l), filter_eq_of_perm perm nodup]

variable [DecidableEq α] [DecidableEq β]

/-- Erasing a member commutes with a map that tells the members apart. -/
lemma map_erase_of_injOn {f : α → β} {l : List α} {a : α} (inj : InjOn f l) (mem : a ∈ l) :
    (l.erase a).map f = (l.map f).erase (f a) := by
  induction l with
  | nil => rfl
  | cons b rest ih =>
    rw [List.map_cons, List.erase_cons, List.erase_cons]
    by_cases same : b = a
    · subst same
      simp
    · have apart : f b ≠ f a := fun eq => same (inj b List.mem_cons_self a mem eq)
      have memR : a ∈ rest := (List.mem_cons.mp mem).resolve_left (Ne.symm same)
      have rest' := ih (inj.subset (List.subset_cons_self b rest)) memR
      simp [same, apart, rest']

end Jaull.Lib
