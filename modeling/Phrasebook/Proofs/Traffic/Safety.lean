import Phrasebook.Proofs.Traffic.Preservation

namespace Phrasebook.Traffic

variable {σ : Type} {first : Translator σ} {traffic : Traffic σ} {log : List (Event σ)}

theorem step_consistent (consistent : Consistent first traffic) (move : Move) :
    Consistent first (traffic.step move) := by
  cases move with
  | enter now key =>
      show Consistent first (traffic.enter now key)
      rcases traffic.translator.enter_cases now key with
        ⟨result, entered, merged⟩ | ⟨flight, entered, found⟩ |
        ⟨progress, world, entered, none, free⟩
      · simp only [enter, entered]
        exact consistent.answered fun isOk => merged_of_holds (merged isOk).2
      · simp only [enter, entered, departure, found, List.append_nil]
        exact consistent.joins found
      · -- a call that starts a load joins it at once
        simp only [enter, entered, departure, none]
        exact (consistent.starts none free).joins (by simp [Flights.find?_depart])
  | land now key =>
      show Consistent first (traffic.land now key)
      unfold land
      split
      · next number finish found =>
          generalize landed : finish now traffic.translator.world = result
          obtain ⟨outcome, world⟩ := result
          simp only [Flight.land, Progress.finish, landed, Flight.ending, Progress.outcome?]
          exact consistent.lands found rfl
      · exact consistent
  | unload caller =>
      show Consistent first (traffic.unload caller)
      unfold unload
      split
      · next key number outcome waits =>
          rcases traffic.translator.unload_cases key number outcome with
            ⟨progress, found, unloaded⟩ | ⟨absent, unloaded⟩
          · simp only [unloaded, if_true]
            exact consistent.unloads waits found rfl
          · simp only [unloaded, Bool.false_eq_true, if_false, List.append_nil]
            exact consistent.findsUnloaded waits absent
      · exact consistent
  | leave caller =>
      show Consistent first (traffic.leave caller)
      unfold leave
      split
      · next key number outcome own leaving => exact consistent.leaves leaving
      · exact consistent
  | giveUp caller =>
      show Consistent first (traffic.giveUp caller)
      unfold giveUp
      split
      · next key flight waits => exact consistent.givenUp waits
      · exact consistent
  | setLocale locale =>
      simp only [step, Translator.setLocale]
      exact consistent.relocated _

theorem run_consistent (consistent : Consistent first traffic) (moves : List Move) :
    Consistent first (traffic.run moves) := by
  induction moves generalizing traffic with
  | nil => exact consistent
  | cons move moves ih => exact ih (step_consistent consistent move)

/-- No load of a merged namespace is under way, and a call for it is answered at once.  Whether the
store is asked before the loads under way or after them makes no difference. -/
theorem Consistent.enter_of_merged (consistent : Consistent first traffic) {now : Int64}
    {key : LoadKey} {start : Int64 → σ → Progress σ × σ}
    (startable : traffic.translator.starter key = .ok start)
    (merged : Merged traffic.translator.store key) :
    traffic.translator.enter now key = (.answered (.ok ()), traffic.translator) := by
  have none : traffic.translator.flights.find? key = none := by
    cases found : traffic.translator.flights.find? key with
    | none => rfl
    | some flight => exact absurd merged (consistent.pending key flight found).2.2
  obtain ⟨name, rfl, marked⟩ := merged
  simp [Translator.enter, startable, none, Translator.holds, marked]

theorem merged_replay (hooks : Hooks σ) {store : MessageStore} {world : σ} {event : Event σ}
    {name : FragmentName} (merged : Merged store (.fragment name))
    (kept : ∀ caller number dictionary,
      event ≠ .unloaded caller number (.locale name.1) (.ok dictionary)) :
    Merged (replay hooks (store, world) event).1 (.fragment name) := by
  cases event with
  | answered caller key result => exact merged
  | started number key world => exact merged
  | joined caller number key => exact merged
  | ended number outcome world => exact merged
  | returned caller number key result own => cases result <;> cases own <;> exact merged
  | unloaded caller number key outcome =>
      cases outcome with
      | error error => exact merged
      | ok dictionary =>
          obtain ⟨_, same, marked⟩ := merged
          cases same
          refine ⟨name, rfl, ?_⟩
          cases key with
          | locale locale =>
              have different : name.1 ≠ locale := fun same => kept caller number dictionary
                (by rw [same])
              exact (MessageStore.hasNamespace_setLocale_of_ne different).trans marked
          | fragment other => exact MessageStore.hasNamespace_mergeNamespace.mpr (.inr marked)

theorem merged_foldl (hooks : Hooks σ) {state : MessageStore × σ} {name : FragmentName}
    (events : List (Event σ)) (merged : Merged state.1 (.fragment name))
    (kept : ∀ caller number dictionary,
      .unloaded caller number (.locale name.1) (.ok dictionary) ∉ events) :
    Merged (events.foldl (replay hooks) state).1 (.fragment name) := by
  induction events generalizing state with
  | nil => exact merged
  | cons event events ih =>
      simp only [List.mem_cons, not_or] at kept
      exact ih (merged_replay hooks merged fun caller number dictionary =>
        Ne.symm (kept caller number dictionary).1) fun caller number dictionary =>
          (kept caller number dictionary).2

/-- A namespace that was merged is fetched again only after a new dictionary of its locale. -/
theorem Orderly.refetched (orderly : Orderly first log) {before middle after : List (Event σ)}
    {caller number other : Nat} {name : FragmentName} {dictionary : Dictionary} {world : σ}
    (split : log = before ++ .unloaded caller number (.fragment name) (.ok dictionary) ::
      middle ++ .started other (.fragment name) world :: after) :
    ∃ owner load replacement,
      .unloaded owner load (.locale name.1) (.ok replacement) ∈ middle := by
  have free := (orderly _ _ after split).2.2
  rw [stateAfter_append, List.foldl_cons] at free
  -- without a new dictionary the namespace would still be merged as its load starts
  refine Classical.byContradiction fun nobody => free (merged_foldl _ middle ?_ ?_)
  · exact ⟨name, rfl, MessageStore.hasNamespace_mergeNamespace.mpr (.inl ⟨rfl, rfl⟩)⟩
  · exact fun owner load replacement member => nobody ⟨owner, load, replacement, member⟩

/-- What the callers, the store and the hooks may rely on. -/
structure Safe (first : Translator σ) (traffic : Traffic σ) : Prop where
  /-- What was unloaded, and nothing else, has been stored, in that order; so have the hooks been
  told by the calls that unloaded it. -/
  accounted : stateAfter first traffic.log = (traffic.translator.store, traffic.translator.world)
  orderly : Orderly first traffic.log
  /-- The loads that can be joined are those that were started and nobody has unloaded. -/
  pending : ∀ number key,
    (∃ progress, traffic.translator.flights.find? key = some ⟨number, progress⟩) ↔
      UnderWay traffic.log number key
  single : ∀ left right key, UnderWay traffic.log left key → UnderWay traffic.log right key →
    left = right
  unloadedOnce : ∀ number, traffic.log.countP (unloads number) ≤ 1
  toldOnce : ∀ number, traffic.log.countP (tells number) ≤ 1
  /-- As soon as a call has returned, its load has been unloaded by one call; the hooks have been
  told once if it was this one. -/
  settled : ∀ caller number key result own,
    .returned caller number key result own ∈ traffic.log →
      traffic.log.countP (unloads number) = 1 ∧
        (own = true → traffic.log.countP (tells number) = 1)
  /-- The call that has unloaded a load is about to return, or has done so and told the hooks. -/
  owned : ∀ caller number key outcome, .unloaded caller number key outcome ∈ traffic.log →
    traffic.callers[caller]? = some (.leaving key number outcome true) ∨
      traffic.log.countP (tells number) = 1
  /-- A call returns the result of the load it joined.  What the load brought has been stored
  then. -/
  results : ∀ before caller number key result own after,
    traffic.log = before ++ .returned caller number key result own :: after →
      .joined caller number key ∈ before ∧ ∃ outcome,
        (∀ other, Ended traffic.log number other ↔ other = outcome) ∧
          result = outcome.map (fun _ => ()) ∧
          ∃ owner earlier between, before = earlier ++ .unloaded owner number key outcome :: between
  free : ∀ name, Merged traffic.translator.store (.fragment name) →
    traffic.translator.flights.find? (.fragment name) = none
  refetched : ∀ before caller number name dictionary middle other world after,
    traffic.log = before ++ .unloaded caller number (.fragment name) (.ok dictionary) ::
      middle ++ .started other (.fragment name) world :: after →
      ∃ owner load replacement, .unloaded owner load (.locale name.1) (.ok replacement) ∈ middle

namespace Consistent

theorem pending_iff (consistent : Consistent first traffic) (number : Nat) (key : LoadKey) :
    (∃ progress, traffic.translator.flights.find? key = some ⟨number, progress⟩) ↔
      UnderWay traffic.log number key := by
  constructor
  · rintro ⟨progress, found⟩
    exact (consistent.pending key _ found).1
  · exact consistent.underWay number key

theorem single (consistent : Consistent first traffic) {left right : Nat} {key : LoadKey}
    (leftUnderWay : UnderWay traffic.log left key) (rightUnderWay : UnderWay traffic.log right key) :
    left = right := by
  obtain ⟨leftProgress, leftFound⟩ := consistent.underWay left key leftUnderWay
  obtain ⟨rightProgress, rightFound⟩ := consistent.underWay right key rightUnderWay
  rw [leftFound] at rightFound
  cases rightFound
  rfl

end Consistent

namespace Orderly

theorem unloaded_of_returned (orderly : Orderly first log) {caller number : Nat} {key : LoadKey}
    {result : Except Error Unit} {own : Bool}
    (returned : .returned caller number key result own ∈ log) :
    log.countP (unloads number) = 1 := by
  obtain ⟨before, subset, _, _, outcome, _, _, ⟨owner, unloaded⟩, _⟩ := orderly.fits_of_mem returned
  have some : 0 < log.countP (unloads number) :=
    List.countP_pos_iff.mpr ⟨_, subset unloaded, unloads_iff.mpr ⟨_, _, _, rfl⟩⟩
  have atMost := orderly.unloads_le_one number
  omega

theorem told_of_returned (orderly : Orderly first log) {caller number : Nat} {key : LoadKey}
    {result : Except Error Unit} (returned : .returned caller number key result true ∈ log) :
    log.countP (tells number) = 1 := by
  have some : 0 < log.countP (tells number) :=
    List.countP_pos_iff.mpr ⟨_, returned, tells_iff.mpr ⟨_, _, _, rfl⟩⟩
  have atMost := orderly.tells_le_one number
  omega

theorem ended_unique (orderly : Orderly first log) {number : Nat} {left right : LoadOutcome}
    (leftEnded : Ended log number left) (rightEnded : Ended log number right) : left = right := by
  obtain ⟨leftWorld, leftMember⟩ := leftEnded
  obtain ⟨rightWorld, rightMember⟩ := rightEnded
  have same := orderly.eq_of_kind
    (fun event => ∃ outcome world, event = .ended number outcome world)
    (fun before event _ fits ofKind earlier member earlierKind => by
      obtain ⟨outcome, world, rfl⟩ := ofKind
      obtain ⟨outcome', world', rfl⟩ := earlierKind
      exact fits.2 outcome' ⟨world', member⟩)
    leftMember rightMember ⟨_, _, rfl⟩ ⟨_, _, rfl⟩
  cases same
  rfl

end Orderly

theorem Consistent.safe (consistent : Consistent first traffic) : Safe first traffic where
  accounted := consistent.accounted
  orderly := consistent.orderly
  pending := consistent.pending_iff
  single _ _ _ := consistent.single
  unloadedOnce := consistent.orderly.unloads_le_one
  toldOnce := consistent.orderly.tells_le_one
  settled := by
    intro caller number key result own returned
    refine ⟨consistent.orderly.unloaded_of_returned returned, ?_⟩
    rintro rfl
    exact consistent.orderly.told_of_returned returned
  owned := by
    intro caller number key outcome unloaded
    refine (consistent.owners caller number key outcome unloaded).imp id ?_
    rintro ⟨result, returned⟩
    exact consistent.orderly.told_of_returned returned
  results := by
    intro before caller number key result own after split
    obtain ⟨joined, _, outcome, ended, isResult, ⟨owner, unloaded⟩, _⟩ :=
      consistent.orderly before _ after split
    have within : before ⊆ traffic.log := split ▸ List.subset_append_left _ _
    obtain ⟨earlier, between, placed⟩ := List.append_of_mem unloaded
    refine ⟨joined, outcome, fun other => ⟨fun otherEnded => ?_, ?_⟩, isResult,
      owner, earlier, between, placed⟩
    · exact consistent.orderly.ended_unique otherEnded (ended.mono within)
    · rintro rfl
      exact ended.mono within
  free := by
    intro name merged
    cases found : traffic.translator.flights.find? (.fragment name) with
    | none => rfl
    | some flight => exact absurd merged (consistent.pending _ flight found).2.2
  refetched _ _ _ _ _ _ _ _ _ split := consistent.orderly.refetched split

/-- Calls for loads are safe after any steps in any order. -/
theorem run_safe (translator : Translator σ) (moves : List Move) :
    Safe translator ((quiet translator).run moves) :=
  (run_consistent (quiet_consistent translator) moves).safe

/-- The second of two calls wakes first, while the namespace is asked for once more. -/
example :
    let translator : Translator Nat :=
      { Translator.create "en" "en" [] 0 with
        namespaces := some fun _ _ fetches =>
          (.awaiting fun _ state => (.ok .empty, state), fetches + 1) }
    let key := LoadKey.fragment ("en", "admin")
    let moves := [.enter 0 key, .enter 0 key, .land 0 key, .unload 1, .enter 0 key, .unload 0,
      .leave 0, .leave 1]
    let traffic := (quiet translator).run moves
    (traffic.translator.world, traffic.log.countP (unloads 0), traffic.log.countP (tells 0)) =
      (1, 1, 1) := by
  rfl

end Phrasebook.Traffic
