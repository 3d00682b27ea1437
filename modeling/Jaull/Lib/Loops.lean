import Mathlib.Data.List.Basic

/-!
# Loops that may end early

A loop over a list whose steps may raise, as a monadic fold, and one whose steps may also leave it. What a step
preserves holds where the loop ends, and the second kind says how far it came.
-/

namespace Jaull.Lib

universe u v w x

section Folds
variable {σ : Type u} {τ : Type v} {α : Type w} {ε : Type x}

/-- A loop that may stop refines one that does not: what its steps preserve holds of its result. -/
theorem foldlM_refines {step : σ → α → Except ε σ} {step' : τ → α → τ} {R : σ → τ → Prop} {items : List α}
    (agrees : ∀ state state' item next, R state state' → item ∈ items → step state item = .ok next →
      R next (step' state' item)) {state next : σ} {state' : τ} (related : R state state')
    (ended : items.foldlM step state = .ok next) : R next (items.foldl step' state') := by
  induction items generalizing state state' with
  | nil =>
    cases ended
    exact related
  | cons item rest ih =>
    rw [List.foldlM_cons] at ended
    cases first : step state item with
    | error stop =>
      rw [first] at ended
      cases ended
    | ok middle =>
      rw [first] at ended
      have own := agrees state state' item middle related List.mem_cons_self first
      exact ih (fun state state' item' next related mem => agrees state state' item' next related
        (List.mem_cons_of_mem _ mem)) own ended

/-- A loop whose steps do not stop ends. -/
lemma foldlM_total {step : σ → α → Except ε σ} (total : ∀ state item, ∃ next, step state item = .ok next)
    (items : List α) (state : σ) : ∃ next, items.foldlM step state = .ok next := by
  induction items generalizing state with
  | nil => exact ⟨state, rfl⟩
  | cons item rest ih =>
    obtain ⟨middle, first⟩ := total state item
    rw [List.foldlM_cons, first]
    exact ih middle

end Folds

section Leaving
variable {σ : Type u} {α : Type w} {ε : Type x}

/-- What a step does to a loop: it goes on, it is left, or it raises. -/
inductive LoopStep (σ : Type u) (ε : Type x)
  | go (state : σ)
  | leave (state : σ)
  | raise (failure : ε)
  deriving DecidableEq, Repr

/-- The loop over a list. -/
def runLoop (step : σ → α → LoopStep σ ε) : List α → σ → Except ε σ
  | [], state => .ok state
  | item :: rest, state =>
    match step state item with
    | .go next => runLoop step rest next
    | .leave last => .ok last
    | .raise failure => .error failure

variable {step : σ → α → LoopStep σ ε} {met items : List α} {state final : σ} {motive : List α → σ → Prop}

/-- Where a loop ends: at the end of the list, or at the item whose step leaves it. -/
theorem runLoop_ends (start : motive met state)
    (go : ∀ met item state next, motive met state → step state item = .go next → motive (met ++ [item]) next)
    (ended : runLoop step items state = .ok final) :
    motive (met ++ items) final ∨
      ∃ before item after last, items = before ++ item :: after ∧ motive (met ++ before) last ∧
        step last item = .leave final := by
  induction items generalizing met state with
  | nil =>
    cases ended
    rw [List.append_nil]
    exact .inl start
  | cons item rest ih =>
    rw [runLoop] at ended
    cases own : step state item with
    | go next =>
      rw [own] at ended
      have split : met ++ item :: rest = met ++ [item] ++ rest := by
        rw [List.append_assoc, List.singleton_append]
      rcases ih (go met item state next start own) ended with all | ⟨before, last', after, last, rfl, holds, left⟩
      · rw [split]
        exact .inl all
      · refine .inr ⟨item :: before, last', after, last, rfl, ?_, left⟩
        rw [List.append_assoc] at holds
        exact holds
    | leave last =>
      rw [own] at ended
      cases ended
      refine .inr ⟨[], item, rest, state, rfl, ?_, own⟩
      rw [List.append_nil]
      exact start
    | raise failure =>
      rw [own] at ended
      cases ended

/-- Where a loop raises: at an item whose step raises, behind items over which it went on. -/
theorem runLoop_raises {failure : ε} (start : motive met state)
    (go : ∀ met item state next, motive met state → step state item = .go next → motive (met ++ [item]) next)
    (raised : runLoop step items state = .error failure) :
    ∃ before item after last, items = before ++ item :: after ∧ motive (met ++ before) last ∧
      step last item = .raise failure := by
  induction items generalizing met state with
  | nil => cases raised
  | cons item rest ih =>
    rw [runLoop] at raised
    cases own : step state item with
    | go next =>
      rw [own] at raised
      obtain ⟨before, last', after, last, rfl, holds, left⟩ := ih (go met item state next start own) raised
      refine ⟨item :: before, last', after, last, rfl, ?_, left⟩
      rw [List.append_assoc] at holds
      exact holds
    | leave last =>
      rw [own] at raised
      cases raised
    | raise failure =>
      rw [own] at raised
      cases raised
      refine ⟨[], item, rest, state, rfl, ?_, own⟩
      rw [List.append_nil]
      exact start

/-- A loop whose steps do not raise ends. -/
lemma runLoop_total (quiet : ∀ state item failure, step state item ≠ .raise failure) (items : List α) (state : σ) :
    ∃ final, runLoop step items state = .ok final := by
  induction items generalizing state with
  | nil => exact ⟨state, rfl⟩
  | cons item rest ih =>
    rw [runLoop]
    cases own : step state item with
    | go next => exact ih next
    | leave last => exact ⟨last, rfl⟩
    | raise failure => exact absurd own (quiet state item failure)

end Leaving

end Jaull.Lib

/-!
## Sifting

Items are taken in order and each is kept, as something made of it, or refused for a reason. The verdict on an item
may depend on what was kept before it. No item is lost, and what keeping one more preserves holds of all that is kept.
-/

namespace Jaull.Lib

universe u v w x y

/-- What was kept of the items so far, and why the others were refused. -/
structure Sifted (β : Type v) (ε : Type w) where
  kept : List β := []
  refused : List ε := []
  deriving DecidableEq, Repr

section Sift
variable {α : Type u} {β : Type v} {ε : Type w}

/-- A verdict is entered. -/
def Sifted.enter (sifted : Sifted β ε) : Except ε β → Sifted β ε
  | .ok made => { sifted with kept := sifted.kept ++ [made] }
  | .error reason => { sifted with refused := sifted.refused ++ [reason] }

/-- The next item is judged. -/
def Sifted.judge (verdict : List β → α → Except ε β) (sifted : Sifted β ε) (item : α) : Sifted β ε :=
  sifted.enter (verdict sifted.kept item)

/-- The items are judged in order. -/
def sift (verdict : List β → α → Except ε β) (items : List α) (sifted : Sifted β ε) : Sifted β ε :=
  items.foldl (Sifted.judge verdict) sifted

variable {verdict : List β → α → Except ε β} {items : List α} {item : α} {sifted : Sifted β ε} {made : β} {reason : ε}

/-- An accepted item is kept. -/
lemma judge_of_ok (given : verdict sifted.kept item = .ok made) :
    sifted.judge verdict item = { sifted with kept := sifted.kept ++ [made] } := by
  rw [Sifted.judge, given]
  rfl

/-- A refused item leaves its reason. -/
lemma judge_of_error (given : verdict sifted.kept item = .error reason) :
    sifted.judge verdict item = { sifted with refused := sifted.refused ++ [reason] } := by
  rw [Sifted.judge, given]
  rfl

/-- Sifting goes on with the first item judged. -/
lemma sift_cons (verdict : List β → α → Except ε β) (item : α) (items : List α) (sifted : Sifted β ε) :
    sift verdict (item :: items) sifted = sift verdict items (sifted.judge verdict item) :=
  rfl

/-- Every item is kept or refused, once. -/
theorem length_sift (verdict : List β → α → Except ε β) (items : List α) (sifted : Sifted β ε) :
    (sift verdict items sifted).kept.length + (sift verdict items sifted).refused.length =
      sifted.kept.length + sifted.refused.length + items.length := by
  induction items generalizing sifted with
  | nil => rfl
  | cons item rest ih =>
    rw [sift_cons, ih, List.length_cons]
    cases given : verdict sifted.kept item with
    | ok made =>
      rw [judge_of_ok given]
      dsimp only
      rw [List.length_append, List.length_singleton]
      omega
    | error reason =>
      rw [judge_of_error given]
      dsimp only
      rw [List.length_append, List.length_singleton]
      omega

/-- What holds of what was kept, and keeps holding when one more is kept, holds of all that is kept. -/
theorem sift_induction {motive : List β → Prop} (start : motive sifted.kept)
    (step : ∀ kept, motive kept → ∀ item ∈ items, ∀ made, verdict kept item = .ok made → motive (kept ++ [made])) :
    motive (sift verdict items sifted).kept := by
  induction items generalizing sifted with
  | nil => exact start
  | cons item rest ih =>
    apply ih
    · cases given : verdict sifted.kept item with
      | ok made =>
        rw [judge_of_ok given]
        exact step _ start item List.mem_cons_self made given
      | error reason =>
        rw [judge_of_error given]
        exact start
    · exact fun kept holds item' mem => step kept holds item' (List.mem_cons_of_mem _ mem)

/-- Nothing that was kept or refused is dropped. -/
lemma sift_grows (verdict : List β → α → Except ε β) (items : List α) (sifted : Sifted β ε) :
    sifted.kept <+: (sift verdict items sifted).kept ∧ sifted.refused <+: (sift verdict items sifted).refused := by
  induction items generalizing sifted with
  | nil => exact ⟨List.prefix_rfl, List.prefix_rfl⟩
  | cons item rest ih =>
    have grows := ih (sifted.judge verdict item)
    cases given : verdict sifted.kept item with
    | ok made =>
      rw [judge_of_ok given] at grows
      rw [sift_cons, judge_of_ok given]
      exact ⟨(List.prefix_append _ _).trans grows.1, grows.2⟩
    | error reason =>
      rw [judge_of_error given] at grows
      rw [sift_cons, judge_of_error given]
      exact ⟨grows.1, (List.prefix_append _ _).trans grows.2⟩

/-- The verdict on an item, on what was kept before it, and that it was entered. -/
def Judged (verdict : List β → α → Except ε β) (sifted : Sifted β ε) (item : α) : Prop :=
  ∃ before, before <+: sifted.kept ∧
    ((∃ made, verdict before item = .ok made ∧ made ∈ sifted.kept) ∨
      ∃ reason, verdict before item = .error reason ∧ reason ∈ sifted.refused)

/-- Every item is judged on what was kept before it. -/
theorem judged_of_mem (mem : item ∈ items) : Judged verdict (sift verdict items sifted) item := by
  induction items generalizing sifted with
  | nil => cases mem
  | cons first rest ih =>
    rcases List.mem_cons.mp mem with rfl | later
    · have before := (sift_grows verdict (item :: rest) sifted).1
      have grows := sift_grows verdict rest (sifted.judge verdict item)
      refine ⟨sifted.kept, before, ?_⟩
      cases given : verdict sifted.kept item with
      | ok made =>
        rw [judge_of_ok given] at grows
        rw [sift_cons, judge_of_ok given]
        exact .inl ⟨made, rfl, grows.1.subset (List.mem_append_right _ (List.mem_singleton_self _))⟩
      | error reason =>
        rw [judge_of_error given] at grows
        rw [sift_cons, judge_of_error given]
        exact .inr ⟨reason, rfl, grows.2.subset (List.mem_append_right _ (List.mem_singleton_self _))⟩
    · exact ih later

/-- What is kept was made of an item. -/
lemma made_of_mem_kept (mem : made ∈ (sift verdict items {}).kept) :
    ∃ item ∈ items, ∃ before, verdict before item = .ok made := by
  have all : ∀ made ∈ (sift verdict items {}).kept, ∃ item ∈ items, ∃ before, verdict before item = .ok made := by
    apply sift_induction (motive := fun kept => ∀ made ∈ kept, ∃ item ∈ items, ∃ before, verdict before item = .ok made)
    · intro made none
      cases none
    · intro kept holds item among made given
      exact List.forall_mem_append.mpr ⟨holds, List.forall_mem_singleton.mpr ⟨item, among, kept, given⟩⟩
  exact all made mem

end Sift

section Firsts
variable {α : Type u} {β : Type v} {ε : Type w} {γ : Type x} {κ : Type y} [DecidableEq κ]

/-- The first item of each key. -/
def firsts (key : γ → κ) (items : List γ) : List γ :=
  items.eraseDupsBy fun a b => key a = key b

/-- A verdict that keeps what an item leads to, a key once and at most `limit` of them. -/
structure KeepsFirsts (verdict : List β → α → Except ε β) (limit : ℕ) (path : α → Option γ) (key : γ → κ)
    (source : β → γ) : Prop where
  full : ∀ kept item, kept.length = limit → ∃ reason, verdict kept item = .error reason
  none : ∀ kept item, path item = none → ∃ reason, verdict kept item = .error reason
  known : ∀ kept item found, path item = some found → key found ∈ kept.map (key ∘ source) →
    ∃ reason, verdict kept item = .error reason
  made : ∀ kept item found, kept.length ≠ limit → path item = some found → key found ∉ kept.map (key ∘ source) →
    ∃ made, verdict kept item = .ok made ∧ source made = found

variable {verdict : List β → α → Except ε β} {limit : ℕ} {path : α → Option γ} {key : γ → κ} {source : β → γ}
variable {items : List α} {sifted : Sifted β ε}

/-- The first item stays, and its like are dropped from the rest. -/
lemma firsts_cons (key : γ → κ) (first : γ) (items : List γ) :
    firsts key (first :: items) = first :: firsts key (items.filter fun item => key item ≠ key first) := by
  rw [firsts, List.eraseDupsBy_cons, firsts]
  refine congrArg (fun rest => first :: List.eraseDupsBy _ rest) (List.filter_congr ?_)
  intro item _
  by_cases same : key item = key first
  · rw [decide_eq_true same, decide_eq_false (not_not.mpr same)]
    rfl
  · rw [decide_eq_false same, decide_eq_true same]
    rfl

/-- What is kept leads to the first items of each key among all the items lead to, as many as there is room for. -/
lemma kept_sift_firsts (keeps : KeepsFirsts verdict limit path key source) (room : sifted.kept.length ≤ limit) :
    (sift verdict items sifted).kept.map source =
      (sifted.kept.map source ++ firsts key ((items.filterMap path).filter fun found =>
        key found ∉ sifted.kept.map (key ∘ source))).take limit := by
  induction items generalizing sifted with
  | nil =>
    change _ = (sifted.kept.map source ++ []).take limit
    have room' : (sifted.kept.map source).length ≤ limit := by
      rw [List.length_map]
      exact room
    rw [List.append_nil, List.take_of_length_le room']
    rfl
  | cons item rest ih =>
    rw [sift_cons]
    -- a full list refuses everything
    by_cases full : sifted.kept.length = limit
    · obtain ⟨reason, given⟩ := keeps.full sifted.kept item full
      have own : (sifted.kept.map source).length = limit := (List.length_map _).trans full
      rw [ih (by rw [judge_of_error given]; exact room), judge_of_error given]
      rw [List.take_left' own, List.take_left' own]
    · cases found : path item with
      | none =>
        obtain ⟨reason, given⟩ := keeps.none sifted.kept item found
        rw [ih (by rw [judge_of_error given]; exact room), judge_of_error given, List.filterMap_cons_none found]
      | some found' =>
        rw [List.filterMap_cons_some found]
        -- a known key is refused, a new one is kept
        by_cases known : key found' ∈ sifted.kept.map (key ∘ source)
        · obtain ⟨reason, given⟩ := keeps.known sifted.kept item found' found known
          rw [ih (by rw [judge_of_error given]; exact room), judge_of_error given]
          rw [List.filter_cons_of_neg (by rw [decide_eq_false (not_not.mpr known)]; exact Bool.false_ne_true)]
        · obtain ⟨made, given, own⟩ := keeps.made sifted.kept item found' full found known
          have room' : (sifted.kept ++ [made]).length ≤ limit := by
            rw [List.length_append, List.length_singleton]
            omega
          rw [ih (by rw [judge_of_ok given]; exact room'), judge_of_ok given]
          dsimp only
          rw [List.filter_cons_of_pos (by exact decide_eq_true known), firsts_cons, List.filter_filter]
          rw [List.map_append, List.map_singleton, own, List.append_assoc, List.singleton_append]
          refine congrArg (fun rest => (sifted.kept.map source ++ found' :: firsts key rest).take limit)
            (List.filter_congr ?_)
          intro item' _
          rw [List.map_append, List.map_singleton, Function.comp_apply, own, ← Bool.decide_and]
          refine decide_eq_decide.mpr ?_
          rw [List.mem_append, List.mem_singleton, not_or]
          exact and_comm

/-- Without anything kept before, the first items of each key are kept. -/
theorem sift_firsts (keeps : KeepsFirsts verdict limit path key source) (items : List α) :
    (sift verdict items {}).kept.map source = (firsts key (items.filterMap path)).take limit := by
  have all := @kept_sift_firsts _ _ _ _ _ _ _ _ _ _ _ items {} keeps (Nat.zero_le limit)
  rw [all]
  refine congrArg (fun found => (firsts key found).take limit) (List.filter_eq_self.mpr ?_)
  intro found _
  exact decide_eq_true List.not_mem_nil

end Firsts

section Parts
variable {α : Type u} {β : Type v} {γ : Type w} {δ : Type x} {f : α → Option β} {g : α → Option γ}
variable {key : α → Option δ} {left : β → Option δ} {right : γ → Option δ}

/-- Every item is taken by one of two functions, and what is said of it can be read off what it becomes. -/
def Parts (f : α → Option β) (g : α → Option γ) (key : α → Option δ) (left : β → Option δ) (right : γ → Option δ) :
    Prop :=
  ∀ a, (∃ b, f a = some b ∧ g a = none ∧ left b = key a) ∨ (∃ c, f a = none ∧ g a = some c ∧ right c = key a)

/-- The two parts of a list together are the list. -/
lemma Parts.perm (parts : Parts f g key left right) (l : List α) :
    ((l.filterMap f).filterMap left ++ (l.filterMap g).filterMap right).Perm (l.filterMap key) := by
  induction l with
  | nil => exact .nil
  | cons a l ih =>
    have grown : (a :: l).filterMap key = (key a).toList ++ l.filterMap key := by
      rw [List.filterMap_cons]
      cases key a with
      | none => rfl
      | some d => rfl
    rw [grown]
    rcases parts a with ⟨b, own, other, same⟩ | ⟨c, other, own, same⟩
    · rw [List.filterMap_cons_some own, List.filterMap_cons_none other, List.filterMap_cons, ← same]
      cases left b with
      | none => exact ih
      | some d => exact ih.cons d
    · rw [List.filterMap_cons_some own, List.filterMap_cons_none other, List.filterMap_cons, ← same]
      cases right c with
      | none => exact ih
      | some d => exact List.perm_middle.trans (ih.cons d)

/-- What a function takes of a list stays in its order. -/
lemma filterMap_filterMap_sublist (agrees : ∀ a b, f a = some b → left b = key a) (l : List α) :
    ((l.filterMap f).filterMap left).Sublist (l.filterMap key) := by
  induction l with
  | nil => exact .slnil
  | cons a l ih =>
    cases own : f a with
    | none =>
      rw [List.filterMap_cons_none own, List.filterMap_cons]
      cases key a with
      | none => exact ih
      | some d => exact ih.cons d
    | some b =>
      rw [List.filterMap_cons_some own, List.filterMap_cons, List.filterMap_cons, agrees a b own]
      cases key a with
      | none => exact ih
      | some d => exact ih.cons_cons d

/-- The left part's items stand in their order. -/
lemma Parts.left_sublist (parts : Parts f g key left right) (l : List α) :
    ((l.filterMap f).filterMap left).Sublist (l.filterMap key) := by
  apply filterMap_filterMap_sublist
  intro a b own
  rcases parts a with ⟨b', own', -, same⟩ | ⟨c, none, -⟩
  · rw [own] at own'
    cases own'
    exact same
  · rw [own] at none
    cases none

/-- So do the right part's. -/
lemma Parts.right_sublist (parts : Parts f g key left right) (l : List α) :
    ((l.filterMap g).filterMap right).Sublist (l.filterMap key) := by
  apply filterMap_filterMap_sublist
  intro a c own
  rcases parts a with ⟨b, -, none, -⟩ | ⟨c', -, own', same⟩
  · rw [own] at none
    cases none
  · rw [own] at own'
    cases own'
    exact same

end Parts
end Jaull.Lib
