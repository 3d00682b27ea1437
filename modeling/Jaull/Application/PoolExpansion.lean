import Jaull.Application.Alternatives
import Mathlib.Data.List.Dedup
import Mathlib.Data.List.Perm.Subperm

/-!
# What an expansion leaves

Every step of an expansion, whether it returns or fails, keeps the original candidates at their places, the
repositories of the pool apart, and the inspections and the searches within their budgets (`Within`).
-/

namespace Jaull.Application
open Jaull.Discovery Jaull.Domain Jaull.Lib Jaull.Recommendation Jaull.Text

/-- The candidate an event inspects. -/
def Event.inspection : Event → Option LinkedCandidate
  | .inspected candidate => some candidate
  | _ => none

/-- A query to the hub. -/
def Event.isSearch : Event → Bool
  | .searched _ => true
  | _ => false

/-- The candidates inspected, in order. -/
def inspections (events : List Event) : List LinkedCandidate :=
  events.filterMap Event.inspection

/-- How often the hub was searched. -/
def searchCount (events : List Event) : ℕ :=
  events.countP Event.isSearch

/-- An event that spends nothing. -/
def Event.Free (event : Event) : Prop :=
  event.inspection = none ∧ event.isSearch = false

section Events
variable {events : List Event} {event : Event}

lemma inspections_concat : inspections (events ++ [event]) = inspections events ++ event.inspection.toList := by
  rw [inspections, inspections, List.filterMap_append]
  cases seen : event.inspection <;> simp [seen]

lemma searchCount_concat : searchCount (events ++ [event]) = searchCount events + if event.isSearch then 1 else 0 := by
  rw [searchCount, searchCount, List.countP_append, List.countP_singleton]

end Events

/-- The session behind one more event. -/
def Session.log {ν : Type} (session : Session ν) (event : Event) : Session ν :=
  { session with events := session.events ++ [event] }

section Programs
variable {ν α : Type} {P Q : Session ν → Prop}

/-- Whatever the answer, only the events change. -/
lemma perform_meets {event : Event} {answer : List Event → Except RaisedError α}
    (logged : ∀ session, P session → Q (session.log event)) :
    Meets P (perform event answer) (fun _ => Q) (fun _ => Q) := by
  intro session held
  rw [perform]
  cases answer session.events with
  | ok a => exact logged session held
  | error error => exact logged session held

/-- An assignment to the variables. -/
lemma assign_meets {f : ν → ν} {E : RaisedError → Session ν → Prop}
    (assigned : ∀ session, P session → Q { session with vars := f session.vars }) :
    Meets P (assign f) (fun _ => Q) E :=
  fun session held => assigned session held

/-- Errors that are skipped keep what holds of both ends. -/
lemma skippingErrors_meets {program : EStateM RaisedError (Session ν) Unit}
    (meets : Meets P program (fun _ => Q) (fun _ => Q)) :
    Meets P (skippingErrors program) (fun _ => Q) (fun _ => Q) := by
  refine Meets.tryCatch meets ?_
  intro error
  exact Meets.ite (fun _ _ held => held) (fun _ _ held => held)

/-- The evaluation of an inspected candidate is about its repository, and asks for free events only. -/
lemma evaluateInspected_meets (outside : Outside) (requirements : UserRequirements)
    (hardware : HardwareProfile) (candidate : LinkedCandidate) (analysis : InspectedModel)
    (logged : ∀ event, event.Free → ∀ session, P session → P (session.log event)) :
    Meets P (evaluateInspected outside requirements hardware candidate analysis)
      (fun item session => P session ∧ item.repoId = candidate.repoId) (fun _ => P) :=
  evaluateCandidate_meets (fun _ _ held => held) fun analysis =>
    perform_meets (logged (.selected analysis) ⟨rfl, rfl⟩)

end Programs

/-- The original candidates stand at their places, with no change but more warnings. -/
def KeepsOriginals (evaluated pool : List PooledCandidate) : Prop :=
  ∀ (index : ℕ) item, evaluated[index]? = some item →
    ∃ more, pool[index]? = some { item with warnings := item.warnings ++ more }

section Pools
variable {evaluated pool : List PooledCandidate} {item : PooledCandidate}

lemma KeepsOriginals.refl (evaluated : List PooledCandidate) : KeepsOriginals evaluated evaluated := by
  intro index item found
  exact ⟨[], by rw [found, List.append_nil]⟩

/-- And still does with more candidates. -/
lemma KeepsOriginals.append (keeps : KeepsOriginals evaluated pool) (added : List PooledCandidate) :
    KeepsOriginals evaluated (pool ++ added) := by
  intro index item found
  obtain ⟨more, same⟩ := keeps index item found
  obtain ⟨lt, _⟩ := List.getElem?_eq_some_iff.mp same
  exact ⟨more, by rw [List.getElem?_append_left lt, same]⟩

/-- One more warning for an item of the pool. -/
lemma KeepsOriginals.warn (keeps : KeepsOriginals evaluated pool) {index : ℕ} (at' : pool[index]? = some item)
    (warning : String) :
    KeepsOriginals evaluated (pool.set index { item with warnings := item.warnings ++ [warning] }) := by
  intro index' original found
  obtain ⟨more, same⟩ := keeps index' original found
  by_cases here : index = index'
  · subst here
    obtain ⟨lt, _⟩ := List.getElem?_eq_some_iff.mp at'
    rw [at'] at same
    cases same
    exact ⟨more ++ [warning], by rw [List.getElem?_set_self lt, List.append_assoc]⟩
  · exact ⟨more, by rw [List.getElem?_set_ne here, same]⟩

/-- A warning leaves the repositories as they are. -/
lemma map_itemKey_warn {index : ℕ} (at' : pool[index]? = some item) (warning : String) :
    (pool.set index { item with warnings := item.warnings ++ [warning] }).map itemKey = pool.map itemKey := by
  obtain ⟨lt, same⟩ := List.getElem?_eq_some_iff.mp at'
  have lt' : index < (pool.map itemKey).length := by
    rw [List.length_map]
    exact lt
  have here : itemKey { item with warnings := item.warnings ++ [warning] } = (pool.map itemKey)[index] := by
    rw [List.getElem_map, same]
    rfl
  rw [List.map_set, here, List.set_getElem_self]

/-- An item of a repository that the pool does not have yet. -/
lemma nodup_append_item (distinct : (pool.map itemKey).Nodup)
    (fresh : ∀ other ∈ pool, itemKey other ≠ itemKey item) : ((pool ++ [item]).map itemKey).Nodup := by
  rw [List.map_append, List.map_singleton, ← List.concat_eq_append]
  refine distinct.concat ?_
  intro mem
  obtain ⟨other, among, same⟩ := List.mem_map.mp mem
  exact fresh other among same

end Pools

/-- Where an expansion stands: `left` more repositories may be inspected, and `pending` searches that are
counted have not been made yet. -/
structure Within (evaluated : List PooledCandidate) (before : List Event) (pending left : ℕ)
    (session : Session Expansion) : Prop where
  originals : KeepsOriginals evaluated session.vars.result
  distinct : (session.vars.result.map itemKey).Nodup
  fresh : ∃ fresh, session.vars.inspected = fresh ++ evaluated.map itemKey ∧
    fresh.length = session.vars.extraInspections
  left : session.vars.extraInspections + left ≤ maxVariantDeepInspection
  searches : session.vars.searches ≤ maxTargetedVariantSearches
  made : ∃ made, session.events = before ++ made ∧
    (∀ candidate ∈ inspections made, repoKey candidate ∈ session.vars.inspected) ∧
    searchCount made + pending ≤ session.vars.searches

section Expanding
variable {evaluated : List PooledCandidate} {before : List Event} {pending left left' : ℕ}
  {session : Session Expansion}

/-- Within a budget, there may be less left of it. -/
lemma Within.less (within : Within evaluated before pending left session) (le : left' ≤ left) :
    Within evaluated before pending left' session where
  originals := within.originals
  distinct := within.distinct
  fresh := within.fresh
  left := Nat.le_trans (Nat.add_le_add_left le _) within.left
  searches := within.searches
  made := within.made

/-- A search that is counted may stay undone. -/
lemma Within.settled (within : Within evaluated before pending left session) :
    Within evaluated before 0 left session where
  originals := within.originals
  distinct := within.distinct
  fresh := within.fresh
  left := within.left
  searches := within.searches
  made := by
    obtain ⟨made, eq, among, le⟩ := within.made
    exact ⟨made, eq, among, Nat.le_trans (Nat.le_add_right _ pending) le⟩

/-- One more event that inspects nothing new. -/
lemma Within.log {pending' : ℕ} (within : Within evaluated before pending left session) {event : Event}
    (known : ∀ candidate ∈ event.inspection, repoKey candidate ∈ session.vars.inspected)
    (spent : (if event.isSearch then 1 else 0) + pending' ≤ pending) :
    Within evaluated before pending' left (session.log event) where
  originals := within.originals
  distinct := within.distinct
  fresh := within.fresh
  left := within.left
  searches := within.searches
  made := by
    obtain ⟨made, eq, among, le⟩ := within.made
    refine ⟨made ++ [event], ?_, ?_, ?_⟩
    · rw [Session.log, eq, List.append_assoc]
    · intro candidate mem
      rw [inspections_concat, List.mem_append, Option.mem_toList] at mem
      rcases mem with mem | mem
      · exact among candidate mem
      · exact known candidate mem
    · rw [searchCount_concat]
      change _ ≤ session.vars.searches
      omega

/-- Events that cost nothing stay within the budget. -/
lemma Within.logFree (within : Within evaluated before pending left session) {event : Event} (free : event.Free) :
    Within evaluated before pending left (session.log event) := by
  apply within.log
  · intro candidate mem
    rw [free.1] at mem
    cases mem
  · rw [free.2]
    exact Nat.le_of_eq (Nat.zero_add pending)

/-- A repository that was not inspected before uses up one of the budget. -/
lemma Within.inspectFresh (within : Within evaluated before pending (left + 1) session) {repo : String}
    (fresh : repo ∉ session.vars.inspected) :
    Within evaluated before pending left
      { session with
        vars :=
          { session.vars with
            inspected := session.vars.inspected.insert repo
            extraInspections := session.vars.extraInspections + 1 } } where
  originals := within.originals
  distinct := within.distinct
  fresh := by
    obtain ⟨known, eq, length⟩ := within.fresh
    refine ⟨repo :: known, ?_, ?_⟩
    · rw [List.insert_of_not_mem fresh, eq]
      rfl
    · rw [List.length_cons, length]
  left := by
    have le := within.left
    dsimp only
    omega
  searches := within.searches
  made := by
    obtain ⟨made, eq, among, le⟩ := within.made
    exact ⟨made, eq, fun candidate mem => List.mem_insert_of_mem (among candidate mem), le⟩

/-- An item of a repository that the pool does not have yet. -/
lemma Within.add (within : Within evaluated before pending left session) {item : PooledCandidate}
    (fresh : ∀ other ∈ session.vars.result, itemKey other ≠ itemKey item) :
    Within evaluated before pending left
      { session with vars := { session.vars with result := session.vars.result ++ [item] } } where
  originals := within.originals.append [item]
  distinct := nodup_append_item within.distinct fresh
  fresh := within.fresh
  left := within.left
  searches := within.searches
  made := within.made

/-- A search is counted before it is made, with all that is left of the inspections. -/
lemma Within.beginSearch (within : Within evaluated before 0 0 session)
    (fewer : session.vars.searches < maxTargetedVariantSearches) :
    Within evaluated before 1 (maxVariantDeepInspection - session.vars.extraInspections)
      { session with vars := { session.vars with searches := session.vars.searches + 1 } } where
  originals := within.originals
  distinct := within.distinct
  fresh := within.fresh
  left := Nat.le_of_eq (Nat.add_sub_cancel' within.left)
  searches := fewer
  made := by
    obtain ⟨made, eq, among, le⟩ := within.made
    exact ⟨made, eq, among, Nat.add_le_add_right le 1⟩

/-- So does a warning. -/
lemma Within.warn (within : Within evaluated before pending left session) {index : ℕ} {item : PooledCandidate}
    (at' : session.vars.result[index]? = some item) (warning : String) :
    Within evaluated before pending left
      { session with
        vars :=
          { session.vars with
            result := session.vars.result.set index
              { item with warnings := item.warnings ++ [warning] } } } where
  originals := within.originals.warn at' warning
  distinct := by
    dsimp only
    rw [map_itemKey_warn at' warning]
    exact within.distinct
  fresh := within.fresh
  left := within.left
  searches := within.searches
  made := within.made

end Expanding

section Steps
variable {outside : Outside} {requirements : UserRequirements} {hardware : HardwareProfile}
  {evaluated : List PooledCandidate} {before : List Event} {pending left : ℕ}

/-- A check for cancellation asks for a free event only. -/
lemma keeps_checkCancelled {ν : Type} {P : Session ν → Prop} (outside : Outside)
    (logged : ∀ event, event.Free → ∀ session, P session → P (session.log event)) :
    Keeps P (checkCancelled outside) :=
  perform_meets (logged .checkedCancelled ⟨rfl, rfl⟩)

/-- So does a counter. -/
lemma keeps_increment (counter : String) (amount : ℤ) :
    Keeps (Within evaluated before pending left) (increment counter amount) :=
  perform_meets fun _ within => within.logFree ⟨rfl, rfl⟩

/-- The invariant, and variables that are known. -/
def WithinAt (evaluated : List PooledCandidate) (before : List Event) (pending left : ℕ) (vars : Expansion)
    (session : Session Expansion) : Prop :=
  Within evaluated before pending left session ∧ session.vars = vars

/-- Such an event keeps the variables. -/
lemma WithinAt.logFree {vars : Expansion} (event : Event) (free : event.Free) (session : Session Expansion)
    (held : WithinAt evaluated before pending left vars session) :
    WithinAt evaluated before pending left vars (session.log event) :=
  ⟨held.1.logFree free, held.2⟩

/-- A session is within its budget at its own variables. -/
lemma WithinAt.of_eq {session : Session Expansion} (within : Within evaluated before pending left session) :
    ∀ session', session' = session → WithinAt evaluated before pending left session.vars session' := by
  intro session' same
  subst same
  exact ⟨within, rfl⟩

/-- An inspection of a repository that is marked as inspected. -/
lemma inspectModel_meets (candidate : LinkedCandidate) :
    Meets
      (fun session =>
        Within evaluated before pending left session ∧ repoKey candidate ∈ session.vars.inspected)
      (inspectModel outside candidate)
      (fun _ => Within evaluated before pending left) (fun _ => Within evaluated before pending left) := by
  refine perform_meets ?_
  intro session ⟨within, known⟩
  refine within.log ?_ (Nat.le_of_eq (Nat.zero_add pending))
  intro other mem
  cases mem
  exact known

/-- Looking for a path changes nothing. -/
lemma keeps_hasViablePath {P : Session Expansion → Prop} (target : String) :
    Keeps P (hasViablePath outside requirements hardware target) := by
  refine Meets.get ?_
  intro session held
  exact Meets.lift.before fun _ same => same ▸ held

/-- What is added is of a repository that the pool does not have. -/
lemma keeps_addConfirmed (candidate : LinkedCandidate) (analysis : InspectedModel) :
    Keeps (Within evaluated before pending left)
      (addConfirmed outside requirements hardware candidate analysis) := by
  refine Meets.ite (fun _ _ within => within) (fun _ => ?_)
  refine Meets.ite (fun _ _ within => within) (fun _ => ?_)
  refine Meets.get ?_
  intro session within
  refine Meets.ite (fun _ _ same => same ▸ within) (fun absent => ?_)
  refine Meets.ite (fun _ _ same => same ▸ within) (fun _ => ?_)
  have fresh : ∀ other ∈ session.vars.result, itemKey other ≠ repoKey candidate := by
    simpa using absent
  -- the evaluation leaves the variables alone, so the repository is still new where it ends
  have evaluates := (evaluateInspected_meets (P := WithinAt evaluated before pending left session.vars) outside
    requirements hardware candidate analysis WithinAt.logFree).before (WithinAt.of_eq within)
  refine Meets.bind (evaluates.failed fun _ _ held => held.1) ?_
  intro item
  refine assign_meets ?_
  intro session' ⟨⟨within', same⟩, about⟩
  apply within'.add
  intro other mem
  rw [same] at mem
  rw [itemKey, itemKey, about]
  exact fresh other mem

/-- A search hit uses up one of the budget only where its repository is new. -/
lemma keeps_inspectHit (target : String) (candidate : LinkedCandidate) :
    Keeps (Within evaluated before 0 0) (inspectHit outside requirements hardware target candidate) := by
  refine Meets.get ?_
  intro session within
  refine Meets.ite (fun _ _ same => same ▸ within) (fun more => ?_)
  refine Meets.ite (fun _ _ same => same ▸ within) (fun fresh => ?_)
  refine Meets.ite (fun _ _ same => same ▸ within) (fun _ => ?_)
  have one : Within evaluated before 0 1 session :=
    { within with left := Nat.lt_of_not_le more }
  have checks := (keeps_checkCancelled outside WithinAt.logFree).before (WithinAt.of_eq one)
  refine Meets.bind (checks.failed fun _ _ held => held.1.less (Nat.zero_le 1)) ?_
  intro _
  refine Meets.bind (assign_meets (Q := fun session' =>
    Within evaluated before 0 0 session' ∧ repoKey candidate ∈ session'.vars.inspected) ?_) ?_
  · intro session' ⟨within', same⟩
    rw [← same] at fresh
    exact ⟨within'.inspectFresh fresh, List.mem_insert_self⟩
  intro _
  refine Meets.bind (skippingErrors_meets (Meets.bind (inspectModel_meets candidate) ?_)) ?_
  · exact keeps_addConfirmed candidate
  · exact fun _ _ within' => within'

/-- An inspection of a discovery uses up at most one of the budget. -/
lemma inspectDiscovered_meets (repoId : String) :
    Meets (Within evaluated before pending (left + 1)) (inspectDiscovered outside repoId)
      (fun _ => Within evaluated before pending left) (fun _ => Within evaluated before pending left) := by
  have less : ∀ (_ : RaisedError) session, Within evaluated before pending (left + 1) session →
      Within evaluated before pending left session :=
    fun _ _ within => within.less (Nat.le_succ left)
  refine Meets.bind ((keeps_checkCancelled outside fun _ free _ within => within.logFree free).failed less) ?_
  intro _
  refine Meets.bind (assign_meets (Q := fun session =>
    Within evaluated before pending left session ∧ casefold repoId ∈ session.vars.inspected) ?_) ?_
  · intro session within
    by_cases known : casefold repoId ∈ session.vars.inspected
    · rw [if_pos known]
      exact ⟨within.less (Nat.le_succ left), known⟩
    · rw [if_neg known]
      exact ⟨within.inspectFresh known, List.mem_insert_self⟩
  intro _
  exact inspectModel_meets { repoId := repoId }

/-- A discovery of as many variants as are left in the budget. -/
lemma budget_discoveryCalls (most : ℕ) :
    Budget (discoveryCalls outside requirements hardware) (Within evaluated before 1 most)
      (Within evaluated before 0) most where
  less n _ within := within.less (Nat.le_succ n)
  begun _ within := within.settled.less (Nat.zero_le most)
  searched query := by
    have searched : Meets (Within evaluated before 1 most)
        (perform (.searched query) (outside.search · query))
        (fun _ => Within evaluated before 0 most) (fun _ => Within evaluated before 0 most) := by
      refine perform_meets ?_
      intro session within
      refine within.log ?_ (Nat.le_refl 1)
      intro candidate mem
      cases mem
    exact searched.failed fun _ _ within => within.less (Nat.zero_le most)
  inspected _ repoId := inspectDiscovered_meets repoId
  uncached := rfl
  counted := by
    intro _ mem counter amount
    cases mem
    exact ⟨keeps_increment counter amount, fun _ => keeps_increment counter amount⟩
  reported := by
    intro _ mem candidate analysis _
    cases mem
    exact keeps_addConfirmed candidate analysis

/-- A search for variants stays within the budget. -/
lemma keeps_searchVariants (item : PooledCandidate) :
    Keeps (Within evaluated before 0 0) (searchVariants outside requirements hardware item) := by
  refine Meets.get ?_
  intro session within
  refine Meets.ite (fun _ _ same => same ▸ within) (fun more => ?_)
  obtain ⟨some', fewer⟩ := not_or.mp more
  refine Meets.bind (assign_meets (Q := Within evaluated before 1
    (maxVariantDeepInspection - session.vars.extraInspections)) ?_) ?_
  · intro session' same
    subst same
    exact within.beginSearch (Nat.lt_of_not_le fewer)
  intro _
  refine skippingErrors_meets (Meets.bind ?_ (fun _ _ within' => within'))
  refine discoverArtifactVariants_meets (budget_discoveryCalls _) _ none 20 false ?_
  omega

/-- So does the expansion of a candidate. -/
lemma keeps_expandItem (candidates : List LinkedCandidate) (item : PooledCandidate) :
    Keeps (Within evaluated before 0 0) (expandItem outside requirements hardware candidates item) := by
  refine Meets.bind (keeps_checkCancelled outside fun _ free _ within => within.logFree free) ?_
  intro _
  split
  case h_1 => exact fun _ within => within
  case h_2 =>
    refine Meets.ite (fun _ _ within => within) (fun _ => ?_)
    split
    case h_1 => exact fun _ within => within
    case h_2 target _ =>
      refine Meets.bind (keeps_hasViablePath target) ?_
      intro viable
      refine Meets.ite (fun _ _ within => within) (fun _ => ?_)
      refine Meets.bind (Keeps.loop (fun candidate _ _ => keeps_inspectHit target candidate) ()) ?_
      intro _
      refine Meets.bind (keeps_hasViablePath target) ?_
      intro viable'
      exact Meets.ite (fun _ _ within => within) (fun _ => keeps_searchVariants item)

/-- So does its warning. -/
lemma keeps_warnItem (originalRepos : List String) (index : ℕ) :
    Keeps (Within evaluated before pending left)
      (warnItem outside requirements hardware originalRepos index) := by
  refine Meets.get ?_
  intro session within
  have unchanged : ∀ session', session' = session → Within evaluated before pending left session' :=
    fun _ same => same ▸ within
  cases at' : session.vars.result[index]? with
  | none => exact unchanged
  | some item =>
    dsimp only
    split
    case h_1 => exact unchanged
    case h_2 =>
      refine Meets.ite (fun _ => unchanged) (fun _ => ?_)
      split
      case h_1 => exact unchanged
      case h_2 target _ =>
        have looks : Keeps (· = session) (hasViablePath outside requirements hardware target) :=
          keeps_hasViablePath target
        refine Meets.bind (looks.failed fun _ => unchanged) ?_
        intro viable
        refine Meets.ite (fun _ => unchanged) (fun _ => assign_meets ?_)
        intro session' same
        subst same
        exact within.warn at' noPathWarning

/-- An expansion that starts from the evaluated candidates. -/
lemma within_start (distinct : (evaluated.map itemKey).Nodup) {session : Session Expansion} :
    Within evaluated session.events 0 0
      { session with
        vars :=
          { result := evaluated, inspected := evaluated.map itemKey, extraInspections := 0,
            searches := 0 } } where
  originals := KeepsOriginals.refl evaluated
  distinct := distinct
  fresh := ⟨[], rfl, rfl⟩
  left := Nat.zero_le _
  searches := Nat.zero_le _
  made := by
    refine ⟨[], (List.append_nil _).symm, ?_, Nat.le_refl 0⟩
    intro candidate mem
    cases mem

/-- So does the expansion of the pool. -/
lemma expandExecutionCandidates_meets (outside : Outside) (requirements : UserRequirements)
    (hardware : HardwareProfile) (distinct : (evaluated.map itemKey).Nodup) (candidates : List LinkedCandidate)
    (before : List Event) :
    Meets (fun session => session.events = before)
      (expandExecutionCandidates outside requirements hardware evaluated candidates)
      (fun pool session => pool = session.vars.result ∧ Within evaluated before 0 0 session)
      (fun _ => Within evaluated before 0 0) := by
  refine Meets.bind (assign_meets (Q := Within evaluated before 0 0) ?_) ?_
  · intro session same
    subst same
    exact within_start distinct
  intro _
  refine Meets.bind (Keeps.each fun item _ => keeps_expandItem candidates item) ?_
  intro _
  refine Meets.get ?_
  intro session within
  have counts : ∀ counter amount, Keeps (Within evaluated before 0 0) (increment counter amount) :=
    keeps_increment
  refine Meets.bind ((counts _ _).before fun _ same => same ▸ within) ?_
  intro _
  refine Meets.bind (counts _ _) ?_
  intro _
  refine Meets.bind (Keeps.each fun index _ => keeps_warnItem _ index) ?_
  intro _
  refine Meets.get ?_
  rintro session' within' _ rfl
  exact ⟨rfl, within'⟩

end Steps

/-- What an expansion leaves, of the session it ends in: the pool, and what it asked of the outside since
`before`. -/
structure Expanded (evaluated : List PooledCandidate) (before : List Event) (session : Session Expansion) :
    Prop where
  originals : KeepsOriginals evaluated session.vars.result
  distinct : (session.vars.result.map itemKey).Nodup
  made : ∃ made, session.events = before ++ made ∧
    (((inspections made).map repoKey).dedup.filter (· ∉ evaluated.map itemKey)).length ≤
      maxVariantDeepInspection ∧
    searchCount made ≤ maxTargetedVariantSearches

/-- The repositories that were not inspected before are the fresh ones of the session. -/
lemma Within.expanded {evaluated : List PooledCandidate} {before : List Event} {session : Session Expansion}
    (within : Within evaluated before 0 0 session) : Expanded evaluated before session where
  originals := within.originals
  distinct := within.distinct
  made := by
    obtain ⟨made, eq, among, le⟩ := within.made
    obtain ⟨fresh, known, length⟩ := within.fresh
    refine ⟨made, eq, ?_, Nat.le_trans le within.searches⟩
    have sub : ((inspections made).map repoKey).dedup.filter (· ∉ evaluated.map itemKey) ⊆ fresh := by
      intro repo mem
      obtain ⟨mem, isNew⟩ := List.mem_filter.mp mem
      obtain ⟨candidate, inspected, rfl⟩ := List.mem_map.mp (List.mem_dedup.mp mem)
      have marked := among candidate inspected
      rw [known] at marked
      rcases List.mem_append.mp marked with isFresh | old
      · exact isFresh
      · exact absurd old (of_decide_eq_true isNew)
    calc (((inspections made).map repoKey).dedup.filter (· ∉ evaluated.map itemKey)).length
        ≤ fresh.length :=
          (List.subperm_of_subset ((List.nodup_dedup _).filter _) sub).length_le
      _ ≤ maxVariantDeepInspection := by
          rw [length]
          exact within.left

end Jaull.Application
