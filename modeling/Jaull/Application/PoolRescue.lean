import Jaull.Application.PoolExpansion

/-!
# What a rescue leaves

A rescue goes over the kept copies in their order. For each copy without a confirmed placement it inspects
some of the siblings, in theirs; what it found of them is what the pool gains (`Rescuing`). A sibling that is
in the pool already is passed over, whatever its placement is: when a round inspects siblings of a copy that
has a confirmed one is settled by what the pool was when the copy came up (`Rescuing.noFurther`,
`Rescuing.noFurther_iff`).
-/

namespace Jaull.Application
open Jaull.Discovery Jaull.Domain Jaull.Lib

/-- A sibling that was inspected, and the item of the pool that came of it. -/
structure Try where
  sibling : LinkedCandidate
  found : Option PooledCandidate

/-- What came of the sibling has no confirmed placement. -/
def Try.Unplaced (try' : Try) : Prop :=
  ∀ item ∈ try'.found, hasConfirmedPlacement item = false

/-- The siblings inspected for one kept copy. -/
structure Round where
  copy : PooledCandidate
  tries : List Try

/-- A round serves a copy without a confirmed placement, goes over its siblings in their order, and ends with
the first sibling that has one. -/
structure Round.Sound (alternatives : String → Option (List LinkedCandidate)) (round : Round) : Prop where
  unplaced : hasConfirmedPlacement round.copy = false
  siblings : ∃ siblings, alternatives (itemKey round.copy) = some siblings ∧
    (round.tries.map Try.sibling).Sublist siblings
  about : ∀ try' ∈ round.tries, ∀ item ∈ try'.found, item.repoId = try'.sibling.repoId
  last : ∀ try' ∈ round.tries.dropLast, try'.Unplaced

/-- The siblings inspected in some rounds. -/
def tried (rounds : List Round) : List LinkedCandidate :=
  rounds.flatMap fun round => round.tries.map Try.sibling

/-- What came of them. -/
def gained (rounds : List Round) : List PooledCandidate :=
  rounds.flatMap fun round => round.tries.filterMap Try.found

/-- The repositories that are passed over: those of the pool, and those that were inspected. -/
def marks (expanded : List PooledCandidate) (rounds : List Round) : List String :=
  expanded.map itemKey ++ (tried rounds).map repoKey

/-- An item of the pool that is one of the siblings of a kept copy. -/
def IsSibling (alternatives : String → Option (List LinkedCandidate)) (copy item : PooledCandidate) : Prop :=
  ∃ siblings, alternatives (itemKey copy) = some siblings ∧ itemKey item ∈ siblings.map repoKey

/-- No sibling of the copy that is in the pool has a confirmed placement. -/
def NoneConfirmed (alternatives : String → Option (List LinkedCandidate)) (copy : PooledCandidate)
    (pool : List PooledCandidate) : Prop :=
  ∀ item ∈ pool, IsSibling alternatives copy item → hasConfirmedPlacement item = false

/-- Behind the earlier rounds nothing is left to inspect for a copy: the inspections are used up, or each of
its siblings is in the pool or was inspected. -/
def NothingLeft (expanded : List PooledCandidate) (alternatives : String → Option (List LinkedCandidate))
    (maxInspections : ℤ) (earlier : List Round) (copy : PooledCandidate) : Prop :=
  maxInspections ≤ (tried earlier).length ∨
    ∀ siblings, alternatives (itemKey copy) = some siblings →
      ∀ sibling ∈ siblings, repoKey sibling ∈ marks expanded earlier

/-- No sibling is inspected once one is confirmed: in front of each inspection of the round, no sibling in the
pool has a confirmed placement, those found in the round so far among them. -/
def Round.NoFurther (alternatives : String → Option (List LinkedCandidate)) (pool : List PooledCandidate)
    (round : Round) : Prop :=
  ∀ tries try' rest, round.tries = tries ++ try' :: rest →
    NoneConfirmed alternatives round.copy (pool ++ tries.filterMap Try.found)

section Rounds
variable {rounds : List Round} {round : Round} {copy : PooledCandidate} {tries : List Try}
  {sibling : LinkedCandidate} {item : PooledCandidate}

lemma tried_append (earlier later : List Round) : tried (earlier ++ later) = tried earlier ++ tried later :=
  List.flatMap_append

lemma tried_cons : tried (round :: rounds) = round.tries.map Try.sibling ++ tried rounds :=
  List.flatMap_cons

lemma tried_concat : tried (rounds ++ [round]) = tried rounds ++ round.tries.map Try.sibling := by
  rw [tried, List.flatMap_append, List.flatMap_singleton]
  rfl

lemma gained_concat : gained (rounds ++ [round]) = gained rounds ++ round.tries.filterMap Try.found := by
  rw [gained, List.flatMap_append, List.flatMap_singleton]
  rfl

/-- One try more tries one sibling more. -/
lemma tried_try (found : Option PooledCandidate) :
    tried (rounds ++ [⟨copy, tries ++ [⟨sibling, found⟩]⟩]) = tried (rounds ++ [⟨copy, tries⟩]) ++ [sibling] := by
  rw [tried_concat, tried_concat, List.map_append, List.append_assoc]
  rfl

/-- It gains what it found. -/
lemma gained_try (found : Option PooledCandidate) :
    gained (rounds ++ [⟨copy, tries ++ [⟨sibling, found⟩]⟩]) =
      gained (rounds ++ [⟨copy, tries⟩]) ++ found.toList := by
  rw [gained_concat, gained_concat, List.filterMap_append, List.append_assoc]
  cases found <;> rfl

/-- It marks its sibling as present. -/
lemma marks_try (expanded : List PooledCandidate) (found : Option PooledCandidate) :
    marks expanded (rounds ++ [⟨copy, tries ++ [⟨sibling, found⟩]⟩]) =
      marks expanded (rounds ++ [⟨copy, tries⟩]) ++ [repoKey sibling] := by
  rw [marks, marks, tried_try, List.map_append, List.append_assoc]
  rfl

/-- A round that has tried nothing marks nothing. -/
lemma marks_newRound (expanded : List PooledCandidate) :
    marks expanded (rounds ++ [⟨copy, []⟩]) = marks expanded rounds := by
  rw [marks, marks, tried_concat]
  exact congrArg (expanded.map itemKey ++ List.map repoKey ·) (List.append_nil (tried rounds))

/-- What a round found in front of its last inspection is unplaced, so only the pool it began with matters. -/
lemma Round.Sound.noFurther {alternatives : String → Option (List LinkedCandidate)}
    {pool : List PooledCandidate} (sound : round.Sound alternatives)
    (none : NoneConfirmed alternatives round.copy pool) : round.NoFurther alternatives pool := by
  intro tries try' rest eq item mem sibling
  rcases List.mem_append.mp mem with inPool | found
  · exact none item inPool sibling
  · obtain ⟨earlier, mem, found⟩ := List.mem_filterMap.mp found
    refine sound.last earlier ?_ item (Option.mem_def.mpr found)
    rw [eq, List.dropLast_append_of_ne_nil (List.cons_ne_nil _ _)]
    exact List.mem_append_left _ mem

/-- A round that inspects while a sibling in the pool is confirmed inspects a further one. -/
lemma Round.NoFurther.noneConfirmed {alternatives : String → Option (List LinkedCandidate)}
    {pool : List PooledCandidate} (noFurther : round.NoFurther alternatives pool)
    (tries : round.tries ≠ []) : NoneConfirmed alternatives round.copy pool := by
  obtain ⟨first, rest, eq⟩ := List.exists_cons_of_ne_nil tries
  have none := noFurther [] first rest eq
  rwa [List.filterMap_nil, List.append_nil] at none

/-- A round may try the next sibling where nothing it tried has a confirmed placement. -/
lemma Round.Sound.concat {alternatives : String → Option (List LinkedCandidate)}
    (sound : Round.Sound alternatives ⟨copy, tries⟩) {done rest : List LinkedCandidate}
    (has : alternatives (itemKey copy) = some (done ++ sibling :: rest))
    (order : (tries.map Try.sibling).Sublist done) (passed : ∀ try' ∈ tries, try'.Unplaced)
    {found : Option PooledCandidate} (about : ∀ item ∈ found, item.repoId = sibling.repoId) :
    Round.Sound alternatives ⟨copy, tries ++ [⟨sibling, found⟩]⟩ where
  unplaced := sound.unplaced
  siblings := by
    refine ⟨_, has, ?_⟩
    rw [List.map_append]
    exact order.append (List.singleton_sublist.mpr List.mem_cons_self)
  about := List.forall_mem_append.mpr ⟨sound.about, List.forall_mem_singleton.mpr about⟩
  last := by
    dsimp only
    rw [List.dropLast_concat]
    exact passed

end Rounds

/-- Where a rescue stands; the inspections of the `pending` repositories are counted and have not been made
yet. -/
structure Rescuing (expanded : List PooledCandidate) (alternatives : String → Option (List LinkedCandidate))
    (maxInspections : ℤ) (before : List Event) (rounds : List Round) (pending : List String)
    (session : Session Rescue) : Prop where
  pool : session.vars.result = expanded ++ gained rounds
  distinct : (session.vars.result.map itemKey).Nodup
  present : ∀ item ∈ session.vars.result, itemKey item ∈ session.vars.present
  marked : ∀ key, key ∈ session.vars.present ↔ key ∈ marks expanded rounds ++ pending
  apart : (marks expanded rounds ++ pending).Nodup
  made : ∃ made, session.events = before ++ made ∧ inspections made = tried rounds ∧ searchCount made = 0
  counted : (tried rounds).length + pending.length = session.vars.inspections
  budget : session.vars.inspections ≤ maxInspections.toNat
  sound : ∀ round ∈ rounds, round.Sound alternatives

section Steps
variable {outside : Outside} {requirements : UserRequirements} {hardware : HardwareProfile}
  {expanded : List PooledCandidate} {alternatives : String → Option (List LinkedCandidate)}
  {maxInspections : ℤ} {before : List Event} {rounds : List Round} {pending : List String}
  {session : Session Rescue}

/-- An event that costs nothing keeps the rescue. -/
lemma Rescuing.logFree (rescuing : Rescuing expanded alternatives maxInspections before rounds pending session)
    {event : Event} (free : event.Free) :
    Rescuing expanded alternatives maxInspections before rounds pending (session.log event) where
  pool := rescuing.pool
  distinct := rescuing.distinct
  present := rescuing.present
  marked := rescuing.marked
  apart := rescuing.apart
  made := by
    obtain ⟨made, eq, same, unsearched⟩ := rescuing.made
    refine ⟨made ++ [event], ?_, ?_, ?_⟩
    · rw [Session.log, eq, List.append_assoc]
    · rw [inspections_concat, free.1, same]
      exact List.append_nil _
    · rw [searchCount_concat, free.2, unsearched]
      rfl
  counted := rescuing.counted
  budget := rescuing.budget
  sound := rescuing.sound

/-- A repository that is marked, and of which the pool has nothing yet. -/
structure Entered (repo : String) (session : Session Rescue) : Prop where
  marked : repo ∈ session.vars.present
  fresh : ∀ item ∈ session.vars.result, itemKey item ≠ repo

/-- An inspection is counted before it is made. -/
lemma Rescuing.enter (rescuing : Rescuing expanded alternatives maxInspections before rounds [] session)
    (more : (session.vars.inspections : ℤ) < maxInspections) {repo : String}
    (absent : repo ∉ session.vars.present) :
    let entered : Session Rescue :=
      { session with
        vars :=
          { session.vars with
            inspections := session.vars.inspections + 1, present := session.vars.present.insert repo } }
    Rescuing expanded alternatives maxInspections before rounds [repo] entered ∧ Entered repo entered := by
  refine ⟨?_, List.mem_insert_self, ?_⟩
  · exact
      { pool := rescuing.pool
        distinct := rescuing.distinct
        present := fun item mem => List.mem_insert_of_mem (rescuing.present item mem)
        marked := by
          intro key
          rw [List.mem_insert_iff, rescuing.marked, List.append_nil, List.mem_append, List.mem_singleton]
          exact or_comm
        apart := by
          have apart := rescuing.apart
          rw [List.append_nil] at apart
          refine List.nodup_append.mpr ⟨apart, List.nodup_singleton repo, ?_⟩
          intro key mem other among same
          have marked := (rescuing.marked key).mpr (List.mem_append_left [] mem)
          exact absent (List.mem_singleton.mp among ▸ same ▸ marked)
        made := rescuing.made
        counted := congrArg (· + 1) rescuing.counted
        budget := by
          dsimp only
          omega
        sound := rescuing.sound }
  · intro item mem same
    exact absent (same ▸ rescuing.present item mem)

/-- Another last round. -/
lemma forall_mem_concat {P : Round → Prop} {round round' : Round} (all : ∀ other ∈ rounds ++ [round], P other)
    (last : P round') : ∀ other ∈ rounds ++ [round'], P other :=
  List.forall_mem_append.mpr ⟨(List.forall_mem_append.mp all).1, List.forall_mem_singleton.mpr last⟩

/-- A round that has tried nothing yet. -/
lemma Rescuing.newRound {copy : PooledCandidate} {siblings : List LinkedCandidate}
    (rescuing : Rescuing expanded alternatives maxInspections before rounds pending session)
    (has : alternatives (itemKey copy) = some siblings) (unplaced : hasConfirmedPlacement copy = false) :
    Rescuing expanded alternatives maxInspections before (rounds ++ [⟨copy, []⟩]) pending session where
  pool := by
    rw [gained_concat, rescuing.pool]
    exact congrArg _ (List.append_nil _).symm
  distinct := rescuing.distinct
  present := rescuing.present
  marked := by
    rw [marks_newRound]
    exact rescuing.marked
  apart := by
    rw [marks_newRound]
    exact rescuing.apart
  made := by
    obtain ⟨made, eq, same, unsearched⟩ := rescuing.made
    exact ⟨made, eq, by rw [same, tried_concat]; exact (List.append_nil _).symm, unsearched⟩
  counted := by
    rw [tried_concat]
    exact (List.append_nil (tried rounds)).symm ▸ rescuing.counted
  budget := rescuing.budget
  sound := by
    have first : Round.Sound alternatives ⟨copy, []⟩ :=
      { unplaced := unplaced
        siblings := ⟨siblings, has, List.nil_sublist _⟩
        about := List.forall_mem_nil _
        last := List.forall_mem_nil _ }
    exact List.forall_mem_append.mpr ⟨rescuing.sound, List.forall_mem_singleton.mpr first⟩

/-- The sibling of an inspection that is made joins the round. -/
lemma Rescuing.inspect {copy : PooledCandidate} {tries : List Try} {sibling : LinkedCandidate}
    (rescuing :
      Rescuing expanded alternatives maxInspections before (rounds ++ [⟨copy, tries⟩])
        [repoKey sibling] session)
    (sound : Round.Sound alternatives ⟨copy, tries ++ [⟨sibling, none⟩]⟩) :
    Rescuing expanded alternatives maxInspections before (rounds ++ [⟨copy, tries ++ [⟨sibling, none⟩]⟩]) []
      (session.log (.inspected sibling)) where
  pool := by
    rw [gained_try]
    exact rescuing.pool.trans (List.append_nil _ ▸ rfl)
  distinct := rescuing.distinct
  present := rescuing.present
  marked := by
    rw [marks_try, List.append_nil]
    exact rescuing.marked
  apart := by
    rw [marks_try, List.append_nil]
    exact rescuing.apart
  made := by
    obtain ⟨made, eq, same, unsearched⟩ := rescuing.made
    refine ⟨made ++ [.inspected sibling], ?_, ?_, ?_⟩
    · rw [Session.log, eq, List.append_assoc]
    · rw [inspections_concat, same, tried_try]
      rfl
    · rw [searchCount_concat, unsearched]
      rfl
  counted := by
    rw [tried_try, List.length_append]
    exact rescuing.counted
  budget := rescuing.budget
  sound := forall_mem_concat rescuing.sound sound

/-- The item that came of the last sibling joins the pool. -/
lemma Rescuing.gain {copy : PooledCandidate} {tries : List Try} {sibling : LinkedCandidate}
    {item : PooledCandidate}
    (rescuing : Rescuing expanded alternatives maxInspections before
      (rounds ++ [⟨copy, tries ++ [⟨sibling, none⟩]⟩]) [] session)
    (entered : Entered (repoKey sibling) session) (about : item.repoId = sibling.repoId)
    (sound : Round.Sound alternatives ⟨copy, tries ++ [⟨sibling, some item⟩]⟩) :
    Rescuing expanded alternatives maxInspections before
      (rounds ++ [⟨copy, tries ++ [⟨sibling, some item⟩]⟩]) []
      { session with vars := { session.vars with result := session.vars.result ++ [item] } } where
  pool := by
    have eq := rescuing.pool
    rw [gained_try, Option.toList_none, List.append_nil] at eq
    dsimp only
    rw [gained_try, eq, List.append_assoc]
    rfl
  distinct := by
    apply nodup_append_item rescuing.distinct
    intro other mem
    rw [itemKey, itemKey, about]
    exact entered.fresh other mem
  present := by
    intro other mem
    rcases List.mem_append.mp mem with mem | mem
    · exact rescuing.present other mem
    · rw [List.mem_singleton.mp mem, itemKey, about]
      exact entered.marked
  marked := by
    have marked := rescuing.marked
    rw [marks_try] at marked ⊢
    exact marked
  apart := by
    have apart := rescuing.apart
    rw [marks_try] at apart ⊢
    exact apart
  made := by
    obtain ⟨made, eq, same, unsearched⟩ := rescuing.made
    exact ⟨made, eq, by rw [same, tried_try, tried_try], unsearched⟩
  counted := by
    have counted := rescuing.counted
    rw [tried_try] at counted
    rw [tried_try]
    exact counted
  budget := rescuing.budget
  sound := forall_mem_concat rescuing.sound sound

/-- Where a rescue was left, by an exception perhaps in the middle of a round: the rounds served copies gone
through. -/
def Stopped (expanded : List PooledCandidate) (alternatives : String → Option (List LinkedCandidate))
    (maxInspections : ℤ) (before : List Event) (copies : List PooledCandidate) (session : Session Rescue) : Prop :=
  ∃ rounds pending, (rounds.map Round.copy).Sublist copies ∧
    Rescuing expanded alternatives maxInspections before rounds pending session

/-- A round that is over and inspected nothing had nothing left to inspect. -/
def Idled (expanded : List PooledCandidate) (alternatives : String → Option (List LinkedCandidate))
    (maxInspections : ℤ) (rounds : List Round) : Prop :=
  ∀ earlier round later, rounds = earlier ++ round :: later → round.tries = [] →
    NothingLeft expanded alternatives maxInspections earlier round.copy

/-- Between two kept copies: the rounds are over. -/
def Ran (expanded : List PooledCandidate) (alternatives : String → Option (List LinkedCandidate))
    (maxInspections : ℤ) (before : List Event) (copies : List PooledCandidate) (session : Session Rescue) : Prop :=
  ∃ rounds, (rounds.map Round.copy).Sublist copies ∧
    Idled expanded alternatives maxInspections rounds ∧
    Rescuing expanded alternatives maxInspections before rounds [] session

/-- Between two siblings of a kept copy: none that was tried has a confirmed placement, and where none was
tried all were passed over. -/
def Trying (expanded : List PooledCandidate) (alternatives : String → Option (List LinkedCandidate))
    (maxInspections : ℤ) (before : List Event) (copies : List PooledCandidate) (copy : PooledCandidate)
    (done : List LinkedCandidate) (session : Session Rescue) : Prop :=
  ∃ rounds tries, (rounds.map Round.copy).Sublist copies ∧ (tries.map Try.sibling).Sublist done ∧
    (∀ try' ∈ tries, try'.Unplaced) ∧
    (tries = [] → ∀ sibling ∈ done, repoKey sibling ∈ marks expanded rounds) ∧
    Idled expanded alternatives maxInspections rounds ∧
    Rescuing expanded alternatives maxInspections before (rounds ++ [⟨copy, tries⟩]) [] session

variable {copies : List PooledCandidate} {copy : PooledCandidate} {done rest : List LinkedCandidate}
  {sibling : LinkedCandidate} {tries : List Try}

/-- A rescue that went through all copies has stopped. -/
lemma Ran.stopped (ran : Ran expanded alternatives maxInspections before copies session) :
    Stopped expanded alternatives maxInspections before copies session := by
  obtain ⟨rounds, kept, _, rescuing⟩ := ran
  exact ⟨rounds, [], kept, rescuing⟩

/-- A rescue that stops in a round. -/
lemma Rescuing.stopped
    (rescuing :
      Rescuing expanded alternatives maxInspections before (rounds ++ [⟨copy, tries⟩]) pending session)
    (kept : (rounds.map Round.copy).Sublist copies) :
    Stopped expanded alternatives maxInspections before (copies ++ [copy]) session := by
  refine ⟨_, _, ?_, rescuing⟩
  rw [List.map_append]
  exact kept.append (List.Sublist.refl [copy])

/-- The last round is over. -/
lemma Idled.concat (idled : Idled expanded alternatives maxInspections rounds)
    (last : tries = [] → NothingLeft expanded alternatives maxInspections rounds copy) :
    Idled expanded alternatives maxInspections (rounds ++ [⟨copy, tries⟩]) := by
  intro earlier round later eq untried
  rcases List.eq_nil_or_concat later with rfl | ⟨later, other, rfl⟩
  · obtain ⟨rfl, same⟩ := List.append_inj' eq rfl
    cases same
    exact last untried
  · rw [List.concat_eq_append, ← List.cons_append, ← List.append_assoc] at eq
    obtain ⟨same, _⟩ := List.append_inj' eq rfl
    exact idled earlier round later same untried

/-- A round that is over. -/
lemma Rescuing.ran
    (rescuing : Rescuing expanded alternatives maxInspections before (rounds ++ [⟨copy, tries⟩]) [] session)
    (kept : (rounds.map Round.copy).Sublist copies) (idled : Idled expanded alternatives maxInspections rounds)
    (last : tries = [] → NothingLeft expanded alternatives maxInspections rounds copy) :
    Ran expanded alternatives maxInspections before (copies ++ [copy]) session := by
  refine ⟨_, ?_, idled.concat last, rescuing⟩
  rw [List.map_append]
  exact kept.append (List.Sublist.refl [copy])

/-- A sibling that was inspected: it is the last of the round, and the pool has nothing of it yet. -/
structure Tried (expanded : List PooledCandidate) (alternatives : String → Option (List LinkedCandidate))
    (maxInspections : ℤ) (before : List Event) (rounds : List Round) (copy : PooledCandidate)
    (tries : List Try) (sibling : LinkedCandidate) (session : Session Rescue) : Prop where
  rescuing : Rescuing expanded alternatives maxInspections before
    (rounds ++ [⟨copy, tries ++ [⟨sibling, none⟩]⟩]) [] session
  entered : Entered (repoKey sibling) session

/-- An event that costs nothing keeps what was tried. -/
lemma Tried.logFree (state : Tried expanded alternatives maxInspections before rounds copy tries sibling session)
    {event : Event} (free : event.Free) :
    Tried expanded alternatives maxInspections before rounds copy tries sibling (session.log event) :=
  ⟨state.rescuing.logFree free, ⟨state.entered.marked, state.entered.fresh⟩⟩

/-- The loop goes on behind a sibling with nothing confirmed. -/
lemma Rescuing.goOn {found : Option PooledCandidate} (kept : (rounds.map Round.copy).Sublist copies)
    (idled : Idled expanded alternatives maxInspections rounds)
    (order : (tries.map Try.sibling).Sublist done) (passed : ∀ try' ∈ tries, try'.Unplaced)
    (unplaced : Try.Unplaced ⟨sibling, found⟩)
    (rescuing : Rescuing expanded alternatives maxInspections before
      (rounds ++ [⟨copy, tries ++ [⟨sibling, found⟩]⟩]) [] session) :
    Trying expanded alternatives maxInspections before copies copy (done ++ [sibling]) session := by
  refine ⟨rounds, _, kept, ?_, ?_, fun untried => absurd untried (by simp), idled, rescuing⟩
  · rw [List.map_append]
    exact order.append (List.Sublist.refl [sibling])
  · exact List.forall_mem_append.mpr ⟨passed, List.forall_mem_singleton.mpr unplaced⟩

/-- A sibling that was inspected is one try more of its copy. -/
lemma rescueInspected_meets (has : alternatives (itemKey copy) = some (done ++ sibling :: rest))
    (kept : (rounds.map Round.copy).Sublist copies) (idled : Idled expanded alternatives maxInspections rounds)
    (order : (tries.map Try.sibling).Sublist done)
    (passed : ∀ try' ∈ tries, try'.Unplaced) (round : Round.Sound alternatives ⟨copy, tries⟩)
    (inspected : Except RaisedError InspectedModel) :
    Meets (Tried expanded alternatives maxInspections before rounds copy tries sibling)
      (rescueInspected outside requirements hardware sibling inspected)
      (AfterTurn (fun _ => Trying expanded alternatives maxInspections before copies copy (done ++ [sibling]))
        (fun _ => Ran expanded alternatives maxInspections before (copies ++ [copy])))
      (fun _ => Stopped expanded alternatives maxInspections before (copies ++ [copy])) := by
  have goesOn : ∀ session, Tried expanded alternatives maxInspections before rounds copy tries sibling session →
      Trying expanded alternatives maxInspections before copies copy (done ++ [sibling]) session := by
    intro session state
    refine state.rescuing.goOn kept idled order passed ?_
    intro item mem
    cases mem
  cases inspected with
  | error error => exact Meets.ite (fun _ => goesOn) (fun _ _ state => state.rescuing.stopped kept)
  | ok analysis =>
    refine Meets.ite (fun _ => goesOn) (fun _ => ?_)
    have evaluates := evaluateInspected_meets
      (P := Tried expanded alternatives maxInspections before rounds copy tries sibling) outside requirements
      hardware sibling analysis fun event free _ state => state.logFree free
    refine Meets.bind (evaluates.failed fun _ _ state => state.rescuing.stopped kept) ?_
    intro item
    refine Meets.bind (assign_meets (Q := fun session => item.repoId = sibling.repoId ∧
      Rescuing expanded alternatives maxInspections before
        (rounds ++ [⟨copy, tries ++ [⟨sibling, some item⟩]⟩]) [] session) ?_) ?_
    · intro session ⟨state, about⟩
      refine ⟨about, state.rescuing.gain state.entered about (round.concat has order passed ?_)⟩
      intro other mem
      cases mem
      exact about
    · intro _
      refine Meets.ite (fun _ _ held => ?_) (fun unplaced _ held => ?_)
      · exact held.2.ran kept idled fun untried => absurd untried (by simp)
      refine held.2.goOn kept idled order passed ?_
      intro other mem
      cases mem
      exact Bool.eq_false_iff.mpr unplaced

/-- A sibling is tried at most once, and the round ends with the first that has a confirmed placement. -/
lemma rescueSibling_meets (has : alternatives (itemKey copy) = some (done ++ sibling :: rest)) :
    Meets (Trying expanded alternatives maxInspections before copies copy done)
      (rescueSibling outside requirements hardware maxInspections sibling)
      (AfterTurn (fun _ => Trying expanded alternatives maxInspections before copies copy (done ++ [sibling]))
        (fun _ => Ran expanded alternatives maxInspections before (copies ++ [copy])))
      (fun _ => Stopped expanded alternatives maxInspections before (copies ++ [copy])) := by
  refine Meets.get ?_
  intro session ⟨rounds, tries, kept, order, passed, passedBy, idled, rescuing⟩
  have next : (tries.map Try.sibling).Sublist (done ++ [sibling]) :=
    order.trans (List.sublist_append_left done [sibling])
  refine Meets.ite (fun spent session' same => ?_) (fun more => ?_)
  · subst same
    refine rescuing.ran kept idled fun untried => ?_
    subst untried
    left
    have counted := rescuing.counted
    rw [tried_concat] at counted
    change (tried rounds ++ []).length + 0 = session'.vars.inspections at counted
    rw [List.append_nil, Nat.add_zero] at counted
    exact counted ▸ spent
  refine Meets.ite (fun marked _ same => ?_) (fun absent => ?_)
  · subst same
    refine ⟨rounds, tries, kept, next, passed, fun untried => ?_, idled, rescuing⟩
    refine List.forall_mem_append.mpr ⟨passedBy untried, List.forall_mem_singleton.mpr ?_⟩
    subst untried
    have marked := (rescuing.marked _).mp marked
    rwa [List.append_nil, marks_newRound] at marked
  have round : Round.Sound alternatives ⟨copy, tries⟩ :=
    rescuing.sound _ (List.mem_append_right rounds (List.mem_singleton_self _))
  have untaken : Round.Sound alternatives ⟨copy, tries ++ [⟨sibling, none⟩]⟩ := by
    apply round.concat has order passed
    intro item mem
    cases mem
  -- the variables are still those of `session` behind the check for cancellation
  let checked (session' : Session Rescue) : Prop :=
    Rescuing expanded alternatives maxInspections before (rounds ++ [⟨copy, tries⟩]) [] session' ∧
      session'.vars = session.vars
  have checks : Meets (· = session) (checkCancelled outside) (fun _ => checked) (fun _ => checked) := by
    refine (keeps_checkCancelled outside ?_).before ?_
    · exact fun event free session' held => ⟨held.1.logFree free, held.2⟩
    · exact fun session' same => same ▸ ⟨rescuing, rfl⟩
  refine Meets.bind (checks.failed fun _ _ held => held.1.stopped kept) ?_
  intro _
  refine Meets.bind (assign_meets (Q := fun session' =>
    Rescuing expanded alternatives maxInspections before (rounds ++ [⟨copy, tries⟩]) [repoKey sibling] session' ∧
      Entered (repoKey sibling) session') ?_) ?_
  · intro session' ⟨rescuing', same⟩
    rw [← same] at absent more
    exact rescuing'.enter (Int.not_le.mp more) absent
  intro _
  refine Meets.bind (Meets.attempt ?_) (rescueInspected_meets has kept idled order passed round)
  refine perform_meets ?_
  intro session' ⟨rescuing', entered⟩
  exact ⟨rescuing'.inspect untaken, ⟨entered.marked, entered.fresh⟩⟩

/-- A kept copy has one round at most. -/
lemma rescueCopy_meets (copies : List PooledCandidate) (copy : PooledCandidate) :
    Meets (Ran expanded alternatives maxInspections before copies)
      (rescueCopy outside requirements hardware alternatives maxInspections copy)
      (fun _ => Ran expanded alternatives maxInspections before (copies ++ [copy]))
      (fun _ => Stopped expanded alternatives maxInspections before (copies ++ [copy])) := by
  have passes : ∀ session, Ran expanded alternatives maxInspections before copies session →
      Ran expanded alternatives maxInspections before (copies ++ [copy]) session := by
    intro session ⟨rounds, kept, idled, rescuing⟩
    exact ⟨rounds, kept.trans (List.sublist_append_left copies [copy]), idled, rescuing⟩
  rw [rescueCopy]
  split
  case h_1 => exact passes
  case h_2 siblings has =>
    refine Meets.ite (fun _ => passes) (fun worthIt => ?_)
    obtain ⟨_, unplaced⟩ := not_or.mp worthIt
    refine Meets.bind (Q := fun _ => Ran expanded alternatives maxInspections before (copies ++ [copy])) ?_
      (fun _ _ held => held)
    refine Meets.before (Meets.loop
      (I := fun done _ => Trying expanded alternatives maxInspections before copies copy done) ?_ ?_ false) ?_
    · intro done sibling rest _ eq
      exact rescueSibling_meets (eq ▸ has)
    · intro _ session ⟨rounds, tries, kept, _, _, passedBy, idled, rescuing⟩
      refine rescuing.ran kept idled fun untried => ?_
      right
      intro siblings' has'
      cases has.symm.trans has'
      exact passedBy untried
    · intro session ⟨rounds, kept, idled, rescuing⟩
      exact ⟨rounds, [], kept, List.nil_sublist _, by simp, by simp, idled,
        rescuing.newRound has (Bool.eq_false_iff.mpr unplaced)⟩

/-- At the start no copy was gone through. -/
lemma ran_start (distinct : (expanded.map itemKey).Nodup) {session : Session Rescue} :
    Ran expanded alternatives maxInspections session.events []
      { session with
        vars := { result := expanded, present := expanded.map itemKey, inspections := 0 } } := by
  refine ⟨[], List.Sublist.refl [], fun earlier round later eq => absurd eq (by simp), ?_⟩
  have marks : marks expanded [] ++ [] = expanded.map itemKey := by
    rw [marks, List.append_nil]
    exact List.append_nil _
  exact
    { pool := (List.append_nil expanded).symm
      distinct := distinct
      present := fun _ mem => List.mem_map_of_mem mem
      marked := fun key => by rw [marks]
      apart := marks.symm ▸ distinct
      made := ⟨[], (List.append_nil _).symm, rfl, rfl⟩
      counted := rfl
      budget := Nat.zero_le _
      sound := by simp }

/-- The rescue runs through the copies and says so of its pool. -/
lemma rescueWithReuploadAlternatives_meets (outside : Outside) (requirements : UserRequirements)
    (hardware : HardwareProfile) (alternatives : String → Option (List LinkedCandidate)) (maxInspections : ℤ)
    (distinct : (expanded.map itemKey).Nodup) (before : List Event) :
    Meets (fun session => session.events = before)
      (rescueWithReuploadAlternatives outside requirements hardware alternatives maxInspections expanded)
      (fun pool session => pool = session.vars.result ∧
        Ran expanded alternatives maxInspections before expanded session)
      (fun _ => Stopped expanded alternatives maxInspections before expanded) := by
  refine Meets.bind (assign_meets (Q := Ran expanded alternatives maxInspections before []) ?_) ?_
  · intro session same
    subst same
    exact ran_start distinct
  intro _
  refine Meets.bind (Q := fun _ => Ran expanded alternatives maxInspections before expanded) ?_ ?_
  · refine Meets.loop (I := fun copies _ => Ran expanded alternatives maxInspections before copies) ?_
      (fun _ _ ran => ran) ()
    intro copies copy rest _ eq
    have among : (copies ++ [copy]).Sublist expanded := by
      rw [eq]
      exact List.append_cons copies copy rest ▸ List.sublist_append_left _ rest
    have ends : ∀ session, Ran expanded alternatives maxInspections before (copies ++ [copy]) session →
        Ran expanded alternatives maxInspections before expanded session := by
      intro session ⟨rounds, kept, idled, rescuing⟩
      exact ⟨rounds, kept.trans among, idled, rescuing⟩
    refine (rescueCopy_meets copies copy).mono (fun _ ran => ran) ?_ ?_
    · intro step session ran
      cases step with
      | yield _ => exact ran
      | done _ => exact ends session ran
    · intro _ session ⟨rounds, pending, kept, rescuing⟩
      exact ⟨rounds, pending, kept.trans among, rescuing⟩
  · intro _
    refine Meets.get ?_
    rintro session ran _ rfl
    exact ⟨rfl, ran⟩

/-- A round inspects no further sibling where none in the pool was confirmed when its copy came up, or nothing
was left to inspect. -/
lemma Rescuing.noFurther {earlier later : List Round} {round : Round}
    (rescuing :
      Rescuing expanded alternatives maxInspections before (earlier ++ round :: later) pending session)
    (fine : NoneConfirmed alternatives round.copy (expanded ++ gained earlier) ∨
      NothingLeft expanded alternatives maxInspections earlier round.copy) :
    round.NoFurther alternatives (expanded ++ gained earlier) := by
  have sound := rescuing.sound round (List.mem_append_right earlier List.mem_cons_self)
  rcases fine with none | nothing
  · exact sound.noFurther none
  intro tries try' rest eq
  exfalso
  have among : try'.sibling ∈ round.tries.map Try.sibling := by
    rw [eq]
    exact List.mem_map_of_mem (List.mem_append_right tries List.mem_cons_self)
  rcases nothing with spent | passed
  · -- one inspection more than the earlier ones was counted
    have counted := rescuing.counted
    have budget := rescuing.budget
    have one := List.length_pos_of_mem among
    rw [tried_append, tried_cons, List.length_append, List.length_append] at counted
    omega
  · -- the sibling was passed over and inspected
    obtain ⟨siblings, has, order⟩ := sound.siblings
    have marked := passed siblings has try'.sibling (order.subset among)
    have apart := rescuing.apart
    rw [marks, tried_append, tried_cons, List.map_append, List.map_append, ← List.append_assoc,
      ← List.append_assoc] at apart
    have disjoint := (List.nodup_append.mp (List.nodup_append.mp (List.nodup_append.mp apart).1).1).2.2
    exact disjoint _ marked _ (List.mem_map_of_mem among) rfl

/-- In a rescue that returns, a round inspects no further sibling only so. -/
lemma Rescuing.noFurther_iff {earlier later : List Round} {round : Round}
    (rescuing :
      Rescuing expanded alternatives maxInspections before (earlier ++ round :: later) pending session)
    (idled : Idled expanded alternatives maxInspections (earlier ++ round :: later)) :
    round.NoFurther alternatives (expanded ++ gained earlier) ↔
      NoneConfirmed alternatives round.copy (expanded ++ gained earlier) ∨
        NothingLeft expanded alternatives maxInspections earlier round.copy := by
  constructor
  · intro noFurther
    by_cases untried : round.tries = []
    · exact Or.inr (idled earlier round later rfl untried)
    · exact Or.inl (noFurther.noneConfirmed untried)
  · exact rescuing.noFurther

end Steps

end Jaull.Application
