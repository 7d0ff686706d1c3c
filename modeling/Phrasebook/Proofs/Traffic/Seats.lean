import Phrasebook.Proofs.Traffic.Alone
import Phrasebook.Proofs.Traffic.Safety
import Phrasebook.Translator.Overlap

namespace Phrasebook.Traffic

open Translator

variable {σ : Type} {traffic middle after : Traffic σ}

/-- Some steps lead from one state to another.  Callers that are not touched stay as they were. -/
structure Goes (touched : List Nat) (traffic after : Traffic σ) : Prop where
  steps : ∃ moves, after = traffic.run moves
  length : traffic.callers.length ≤ after.callers.length
  kept : ∀ caller standing, caller ∉ touched → traffic.callers[caller]? = some standing →
    after.callers[caller]? = some standing

theorem Goes.refl (touched : List Nat) (traffic : Traffic σ) : Goes touched traffic traffic where
  steps := ⟨[], rfl⟩
  length := Nat.le_refl _
  kept _ _ _ found := found

theorem Goes.trans {touched others : List Nat} (first : Goes touched traffic middle)
    (second : Goes others middle after) : Goes (touched ++ others) traffic after where
  steps := by
    obtain ⟨moves, rfl⟩ := first.steps
    obtain ⟨more, rfl⟩ := second.steps
    exact ⟨moves ++ more, (run_append ..).symm⟩
  length := Nat.le_trans first.length second.length
  kept caller standing untouched found := by
    rw [List.mem_append, not_or] at untouched
    exact second.kept caller standing untouched.2
      (first.kept caller standing untouched.1 found)

theorem Goes.old {touched : List Nat} (goes : Goes touched traffic after) {others : List Nat}
    (isNew : ∀ seat ∈ touched, seat ∈ others ∨ traffic.callers.length ≤ seat) :
    Goes others traffic after where
  steps := goes.steps
  length := goes.length
  kept caller standing untouched found := by
    refine goes.kept caller standing (fun member => ?_) found
    have inside := (List.getElem?_eq_some_iff.mp found).1
    rcases isNew caller member with old | beyond
    · exact untouched old
    · omega

theorem callers_unload_of_ne {caller other : Nat} (different : other ≠ caller) :
    (traffic.unload caller).callers[other]? = traffic.callers[other]? := by
  unfold unload
  split
  · exact List.getElem?_set_ne (Ne.symm different)
  · rfl

theorem callers_leave_of_ne {caller other : Nat} (different : other ≠ caller) :
    (traffic.leave caller).callers[other]? = traffic.callers[other]? := by
  unfold leave
  split
  · exact List.getElem?_set_ne (Ne.symm different)
  · rfl

theorem length_unload (traffic : Traffic σ) (caller : Nat) :
    (traffic.unload caller).callers.length = traffic.callers.length := by
  unfold unload
  split
  · exact List.length_set
  · rfl

theorem length_leave (traffic : Traffic σ) (caller : Nat) :
    (traffic.leave caller).callers.length = traffic.callers.length := by
  unfold leave
  split
  · exact List.length_set
  · rfl

theorem goes_enter (traffic : Traffic σ) (now : Int64) (key : LoadKey) :
    Goes [] traffic (traffic.enter now key) where
  steps := ⟨[.enter now key], rfl⟩
  length := by
    unfold enter
    split
    · simp
    · simp
  kept caller standing _ found := by
    unfold enter
    split
    · exact getElem?_concat_of_some found
    · exact getElem?_concat_of_some found

theorem goes_settle (traffic : Traffic σ) (caller : Nat) :
    Goes [caller] traffic ((traffic.unload caller).leave caller) where
  steps := ⟨[.unload caller, .leave caller], rfl⟩
  length := Nat.le_of_eq (by rw [length_leave, length_unload])
  kept other standing untouched found := by
    rw [List.mem_singleton] at untouched
    rw [callers_leave_of_ne untouched, callers_unload_of_ne untouched, found]

/-- The call has the seat of a caller that waits as it does. -/
def Seated (traffic : Traffic σ) (call : Waiting σ) (seat : Nat) : Prop :=
  traffic.callers[seat]? = some (.waiting call.key call.flight)

theorem Seated.lt {call : Waiting σ} {seat : Nat} (sits : Seated traffic call seat) :
    seat < traffic.callers.length :=
  (List.getElem?_eq_some_iff.mp sits).1

/-- Steps lead to the state of a result, in which the call has one of the new seats if it waits. -/
def Leads (touched : List Nat) (traffic : Traffic σ) (result : Stage σ × Translator σ) : Prop :=
  ∃ after, Goes touched traffic after ∧ after.translator = result.2 ∧
    ∀ call, result.1 = .waiting call →
      ∃ seat, traffic.callers.length ≤ seat ∧ Seated after call seat

theorem Leads.of_goes {touched : List Nat} {result : Stage σ × Translator σ}
    (goes : Goes touched traffic middle) (leads : Leads [] middle result) :
    Leads touched traffic result := by
  obtain ⟨after, second, translator, seated⟩ := leads
  refine ⟨after, by simpa using goes.trans second, translator, fun call waits => ?_⟩
  obtain ⟨seat, beyond, sits⟩ := seated call waits
  exact ⟨seat, Nat.le_trans goes.length beyond, sits⟩

theorem leads_answered (traffic : Traffic σ) (answer : Answer) :
    Leads [] traffic (.answered answer, traffic.translator) :=
  ⟨traffic, .refl _ _, rfl, nofun⟩

theorem goes_setLocale (traffic : Traffic σ) (locale : String) :
    Goes [] traffic (traffic.step (.setLocale locale)) where
  steps := ⟨[.setLocale locale], by simp only [run, List.foldl]⟩
  length := Nat.le_of_eq (by simp only [step])
  kept _ _ _ found := by simpa only [step] using found

theorem leads_setLocale (traffic : Traffic σ) (answer : Answer) (locale : String) :
    Leads [] traffic (.answered answer, traffic.translator.setLocale locale) :=
  (leads_answered (traffic.step (.setLocale locale)) answer).of_goes (goes_setLocale ..)

theorem leads_board (traffic : Traffic σ) (now : Int64) (key : LoadKey) (rest : Rest)
    {next : Except Error Unit → Translator σ → Stage σ × Translator σ}
    (goesOn : ∀ result (middle : Traffic σ), Leads [] middle (next result middle.translator)) :
    Leads [] traffic (traffic.translator.board now key rest next) := by
  have entering := goes_enter traffic now key
  unfold board
  generalize entered : traffic.translator.enter now key = entry
  obtain ⟨entry, translator⟩ := entry
  have translatorEntered : (traffic.enter now key).translator = translator := by
    cases entry <;> simp only [enter, entered]
  cases entry with
  | answered result =>
      rw [← translatorEntered]
      exact (goesOn result _).of_goes entering
  | boarded flight =>
      have waits : (traffic.enter now key).callers[traffic.callers.length]? =
          some (.waiting key flight) := by
        simp [enter, entered]
      obtain ⟨number, progress⟩ := flight
      cases progress with
      | awaiting finish =>
          refine ⟨_, entering, translatorEntered, fun call isCall => ?_⟩
          cases isCall
          exact ⟨_, Nat.le_refl _, waits⟩
      | settled outcome =>
          -- the call comes and goes without a wait, and leaves its seat to nobody
          obtain ⟨settled, _⟩ := unload_leave waits
          have settling : Goes [] traffic _ :=
            (entering.trans (goes_settle _ traffic.callers.length)).old fun seat member => by
              simp only [List.nil_append, List.mem_singleton] at member
              exact .inr (Nat.le_of_eq member.symm)
          rw [translatorEntered] at settled
          have leads := goesOn (translator.settle key number outcome).1
            (((traffic.enter now key).unload traffic.callers.length).leave traffic.callers.length)
          rw [settled] at leads
          exact leads.of_goes settling

theorem leads_loadMore (traffic : Traffic σ) (now : Int64) (locales failed : List String) :
    Leads [] traffic (loadMore now locales failed traffic.translator) := by
  induction locales generalizing traffic failed with
  | nil => exact leads_answered ..
  | cons locale locales ih => exact leads_board _ _ _ _ fun result middle => ih middle _

theorem leads_resume (traffic : Traffic σ) (now : Int64) (rest : Rest)
    (result : Except Error Unit) :
    Leads [] traffic (resume now rest result traffic.translator) := by
  cases rest with
  | answer => exact leads_answered ..
  | loadMore locale locales failed => exact leads_loadMore ..
  | setLocale locale =>
      cases result with
      | ok _ => exact leads_setLocale ..
      | error error => exact leads_answered ..

theorem leads_begin (traffic : Traffic σ) (now : Int64) (call : Call) :
    Leads [] traffic (traffic.translator.begin now call) := by
  cases call with
  | loadLocale locale => exact leads_board _ _ _ _ fun result middle => leads_resume ..
  | loadNamespace name => exact leads_board _ _ _ _ fun result middle => leads_resume ..
  | loadChain =>
      simp only [begin]
      split
      · exact leads_answered ..
      · exact leads_loadMore ..
  | changeLocale locale =>
      simp only [begin]
      generalize Locale.normalize locale = name
      split
      · exact leads_board _ _ _ _ fun result middle => leads_resume ..
      · exact leads_setLocale ..

end Phrasebook.Traffic
