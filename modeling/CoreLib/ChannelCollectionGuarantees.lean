/-
Dispatch and registration when channels are collected.

Whatever `wait` can return belongs to a channel that is there and connected, also when a
channel was collected while it was scheduled.  Where every channel is unscheduled before
its descriptor is closed, the epoll set of each looper follows its `_sources` exactly.
-/

import CoreLib.ChannelCollectionInvariant

set_option autoImplicit false

namespace CoreLib.ChannelCollection

open Foundation
open ChannelRegistration (Endpoint Source)

variable {Id Loop : Type} [DecidableEq Id] [DecidableEq Loop]

/-! ### Registrations of channels that are unscheduled first -/

/-- No looper has a source of the channel when its descriptor is closed. -/
def UnscheduledFirst (state : State Id Loop) : Action Id Loop → Prop
  | .terminate id => ∀ looper, ∀ source ∈ (state.waitSets looper).sources, source.channel ≠ id
  | .collect id => ∀ looper, ∀ source ∈ (state.waitSets looper).sources, source.channel ≠ id
  | _ => True

def Complete (state : State Id Loop) : Prop :=
  ∀ looper, ∀ source ∈ (state.waitSets looper).sources,
    Alive state.channels source ∧
      (state.waitSets looper).kernel source.readHandle = some source

section Complete

variable {state : State Id Loop} {id : Id} {looper : Loop} {endpoint : Endpoint Id}

omit [DecidableEq Loop] in
theorem Complete.setChannel (complete : Complete state)
    (found : state.channels id = some endpoint) {changed : Endpoint Id}
    (handle : changed.channel.handle = endpoint.channel.handle)
    (cached : ∀ source, endpoint.source = some source → changed.source = some source) :
    Complete (state.setChannel id changed) := by
  intro looper source member
  obtain ⟨alive, entry⟩ := complete looper source member
  exact ⟨alive.keep found handle cached, entry⟩

omit [DecidableEq Id] in
theorem Complete.setWaitSet (complete : Complete state)
    {set : WaitSet (Source Id) (Interest Id)}
    (right : ∀ source ∈ set.sources,
      Alive state.channels source ∧ set.kernel source.readHandle = some source) :
    Complete (state.setWaitSet looper set) := by
  intro other source member
  by_cases same : other = looper
  · subst other
    have here : (state.setWaitSet looper set).waitSets looper = set := Function.update_self ..
    rw [here] at member ⊢
    exact right source member
  · have here : (state.setWaitSet looper set).waitSets other = state.waitSets other :=
      Function.update_of_ne same ..
    rw [here] at member ⊢
    exact complete other source member

theorem Sound.add_complete (sound : Sound state) (complete : Complete state) {source : Source Id}
    (alive : Alive state.channels source) :
    Complete (state.setWaitSet looper ((state.waitSets looper).addSource
      (updateInWaitSetHandle state.openNumbers) source).2) := by
  apply complete.setWaitSet
  rcases WaitSet.addSource_cases (updateInWaitSetHandle state.openNumbers)
    (state.waitSets looper) source with ⟨_, unchanged⟩ | ⟨absent, _, sources, kernel⟩
  · rw [unchanged]
    exact complete looper
  · have apart : ∀ other, other ∈ (state.waitSets looper).sources → Alive state.channels other →
        other.readHandle ≠ source.readHandle := by
      intro other member living same
      rw [sound.numbered.alive_unique living alive same] at member
      exact absent member
    have free : (state.waitSets looper).kernel source.readHandle = none := by
      cases held : (state.waitSets looper).kernel source.readHandle with
      | none => rfl
      | some other =>
          obtain ⟨owns, key⟩ := sound.within looper _ other held
          exact absurd (Option.some.inj key) (apart other owns.1 owns.2)
    obtain ⟨_, _, _, _, _, opened, _⟩ := sound.numbered.alive alive
    have written : (state.waitSets looper).addSource
        (updateInWaitSetHandle state.openNumbers) source |>.2.kernel =
          Function.update (state.waitSets looper).kernel source.readHandle (some source) := by
      rw [kernel, updateInWaitSetHandle, Epoll.control_add opened free]
    rw [sources, written]
    intro other member
    rcases List.mem_cons.mp member with same | earlier
    · rw [same, Function.update_self]
      exact ⟨alive, rfl⟩
    · obtain ⟨living, entry⟩ := complete looper other earlier
      rw [Function.update_of_ne (apart other earlier living)]
      exact ⟨living, entry⟩

theorem Sound.remove_complete (sound : Sound state) (complete : Complete state)
    (source : Source Id) :
    Complete (state.setWaitSet looper ((state.waitSets looper).removeSource
      (updateInWaitSetHandle state.openNumbers) source).2) := by
  apply complete.setWaitSet
  intro other member
  obtain ⟨different, earlier⟩ := WaitSet.mem_removeSource.mp member
  obtain ⟨living, entry⟩ := complete looper other earlier
  refine ⟨living, ?_⟩
  rcases WaitSet.removeSource_cases (updateInWaitSetHandle state.openNumbers)
    (state.waitSets looper) source with ⟨_, unchanged⟩ | ⟨present, _, _, kernel⟩
  · rw [unchanged]
    exact entry
  · obtain ⟨alive, _⟩ := complete looper source present
    obtain ⟨_, _, _, _, _, opened, _⟩ := sound.numbered.alive alive
    have apart : other.readHandle ≠ source.readHandle := by
      intro same
      exact different (sound.numbered.alive_unique living alive same)
    rw [kernel, updateInWaitSetHandle, Epoll.control_delete opened]
    dsimp only
    rw [Function.update_of_ne apart]
    exact entry

omit [DecidableEq Id] [DecidableEq Loop] in
theorem Complete.closeNumber (complete : Complete state) {number : Int}
    (apart : ∀ looper, ∀ source ∈ (state.waitSets looper).sources,
      source.readHandle ≠ number) : Complete (state.closeNumber number) := by
  intro looper source member
  obtain ⟨alive, entry⟩ := complete looper source member
  refine ⟨alive, ?_⟩
  change Function.update (state.waitSets looper).kernel number none source.readHandle = _
  rw [Function.update_of_ne (apart looper source member)]
  exact entry

omit [DecidableEq Loop] in
theorem Sound.terminate_complete (sound : Sound state) (complete : Complete state)
    (found : state.channels id = some endpoint)
    (first : ∀ looper, ∀ source ∈ (state.waitSets looper).sources, source.channel ≠ id) :
    Complete (state.terminate id endpoint) := by
  have closed : Complete (if endpoint.channel.handle = -1 then state
      else state.closeNumber endpoint.channel.handle) := by
    by_cases shut : endpoint.channel.handle = -1
    · rw [if_pos shut]
      exact complete
    · rw [if_neg shut]
      apply complete.closeNumber
      intro looper source member same
      obtain ⟨holder, here, _, _, number, _, opened⟩ :=
        sound.numbered.alive (complete looper source member).1
      rw [← number] at opened
      exact first looper source member (sound.numbered.distinct _ id holder endpoint here found
        opened (number.trans same))
  have sources : ∀ looper, ((if endpoint.channel.handle = -1 then state
      else state.closeNumber endpoint.channel.handle).waitSets looper).sources =
        (state.waitSets looper).sources := by
    intro looper
    split <;> rfl
  intro looper source member
  obtain ⟨alive, entry⟩ := closed looper source member
  refine ⟨alive.other ?_ _, entry⟩
  apply first looper source
  rw [← sources looper]
  exact member

theorem Complete.step {action : Action Id Loop} {next : State Id Loop}
    (complete : Complete state) (sound : Sound state) (first : UnscheduledFirst state action)
    (enabled : ChannelCollection.step state action = some next) : Complete next := by
  have created : ∀ id channel, state.unused id = true → Complete (state.create id channel) := by
    intro id channel unused looper source member
    obtain ⟨alive, entry⟩ := complete looper source member
    refine ⟨alive.other ?_ _, entry⟩
    intro same
    obtain ⟨holder, found, _⟩ := alive
    rw [same, Option.isNone_iff_eq_none.mp (Bool.and_eq_true_iff.mp unused).1] at found
    contradiction
  cases action with
  | createNamed id name =>
      obtain ⟨unused, same⟩ := Option.ite_none_right_eq_some.mp enabled
      cases same
      exact created id _ unused
  | createConnected id =>
      obtain ⟨unused, same⟩ := Option.ite_none_right_eq_some.mp enabled
      cases same
      exact created id _ unused
  | tryConnect id accepted =>
      obtain ⟨endpoint, found, same⟩ := Option.map_eq_some_iff.mp enabled
      subst next
      unfold State.tryConnect
      split
      · exact complete
      · exact complete.setChannel found rfl fun _ cached => cached
  | schedule id looper =>
      obtain ⟨endpoint, found, same⟩ := Option.map_eq_some_iff.mp enabled
      subst next
      unfold State.schedule
      by_cases connected : endpoint.channel.connected = true
      · rw [if_pos connected]
        obtain ⟨cached, alive, kept⟩ := sound.cache found connected
        exact cached.add_complete (complete.setChannel found rfl kept) alive
      · rw [if_neg connected]
        exact complete
  | unschedule id looper =>
      obtain ⟨endpoint, found, same⟩ := Option.map_eq_some_iff.mp enabled
      subst next
      unfold State.unschedule
      cases endpoint.source with
      | none => exact complete
      | some source => exact sound.remove_complete complete source
  | terminate id =>
      obtain ⟨endpoint, found, same⟩ := Option.map_eq_some_iff.mp enabled
      subst next
      exact sound.terminate_complete complete found first
  | collect id =>
      obtain ⟨endpoint, found, same⟩ := Option.map_eq_some_iff.mp enabled
      subst next
      intro looper source member
      obtain ⟨alive, entry⟩ := sound.terminate_complete complete found first looper source member
      refine ⟨alive.other ?_ _, entry⟩
      intro same
      obtain ⟨holder, here, _, opened⟩ := alive
      rw [same, terminate_self] at here
      cases here
      exact opened rfl
  | openOther =>
      cases enabled
      exact complete
  | closeOther number =>
      obtain ⟨mine, same⟩ := Option.ite_none_right_eq_some.mp enabled
      cases same
      have closed : Complete (state.closeNumber number) := by
        apply complete.closeNumber
        intro looper source member same
        obtain ⟨holder, found, _, _, handle, _, opened⟩ :=
          sound.numbered.alive (complete looper source member).1
        rw [← handle] at opened
        apply sound.numbered.foreign _ holder found opened
        rw [handle, same]
        exact mine
      exact closed

end Complete

/-! ### Whole runs -/

section Runs

variable {openNumbers : List Int} {actions : List (Action Id Loop)} {final : State Id Loop}

theorem sound_run (performed : run step (initial openNumbers) actions = some final) :
    Sound final :=
  run_preserves (fun _ _ _ sound enabled => sound.step enabled) (initial_sound openNumbers)
    performed

/-- Whatever `wait` can return belongs to a connected channel that has not been collected and
whose own handle is ready, also when other channels were collected while scheduled. -/
theorem wait_living (performed : run step (initial openNumbers) actions = some final)
    {looper : Loop} {number : Int} {source : Source Id}
    (returned : wait final looper number = some source) :
    source.channel ∉ final.collected ∧ source ∈ (final.waitSets looper).sources ∧
      ∃ endpoint, final.channels source.channel = some endpoint ∧
        endpoint.source = some source ∧ endpoint.channel.connected = true ∧
        endpoint.channel.handle = number ∧ source.readHandle = number ∧
        number ∈ final.openNumbers ∧ number ∉ final.others := by
  have sound := sound_run performed
  obtain ⟨⟨member, alive⟩, key⟩ := sound.within looper number source returned
  obtain ⟨endpoint, found, cached, connected, handle, opened, real⟩ :=
    sound.numbered.alive alive
  have same := Option.some.inj key
  rw [same] at handle opened real
  refine ⟨sound.present found, member, endpoint, found, cached, connected, handle, same, opened, ?_⟩
  rw [← handle]
  apply sound.numbered.foreign _ endpoint found
  rw [handle]
  exact real

/-- Channel 0 is collected while scheduled; channel 1 gets its number. -/
def careless : List (Action Nat Bool) :=
  [.createConnected 0, .schedule 0 true, .collect 0, .createConnected 1, .schedule 1 true]

theorem wait_living_reused :
    ∃ final, run step (initial [0, 1, 2, 3]) careless = some final ∧
      ({ channel := 0, readHandle := 4 } : Source Nat) ∈ (final.waitSets true).sources ∧
      wait final true 4 = some { channel := 1, readHandle := 4 } ∧
      1 ∉ final.collected ∧ 4 ∉ final.others := by
  obtain ⟨final, performed, member, returned⟩ :
      ∃ final, run step (initial [0, 1, 2, 3]) careless = some final ∧
        ({ channel := 0, readHandle := 4 } : Source Nat) ∈ (final.waitSets true).sources ∧
        wait final true 4 = some { channel := 1, readHandle := 4 } :=
    ⟨_, rfl, by decide, rfl⟩
  obtain ⟨alive, _, _, _, _, _, _, _, _, apart⟩ := wait_living performed returned
  exact ⟨final, performed, member, returned, alive, apart⟩

/-- When every channel is unscheduled before its descriptor is closed, each looper waits for
exactly the sources in its set, and the channel of each of them is connected. -/
theorem wait_iff_scheduled
    (disciplined : Respects step UnscheduledFirst (initial openNumbers) actions)
    (performed : run step (initial openNumbers) actions = some final) (looper : Loop) :
    (∀ number source, wait final looper number = some source ↔
      source ∈ (final.waitSets looper).sources ∧ source.readHandle = number) ∧
    ∀ source ∈ (final.waitSets looper).sources, ∃ endpoint,
      final.channels source.channel = some endpoint ∧ endpoint.channel.connected = true ∧
        endpoint.channel.handle = source.readHandle := by
  have always : Always step (fun state => Sound state ∧ Complete state)
      (initial openNumbers : State Id Loop) actions := by
    refine always_of_preserved ?_ ⟨initial_sound openNumbers, ?_⟩ disciplined
    · intro state action next both first enabled
      exact ⟨both.1.step enabled, both.2.step both.1 first enabled⟩
    · intro other source member
      contradiction
  obtain ⟨sound, complete⟩ := always.final performed
  constructor
  · intro number source
    constructor
    · intro returned
      obtain ⟨owns, key⟩ := sound.within looper number source returned
      exact ⟨owns.1, Option.some.inj key⟩
    · intro scheduled
      rw [← scheduled.2]
      exact (complete looper source scheduled.1).2
  · intro source member
    obtain ⟨endpoint, found, _, connected, handle, _⟩ :=
      sound.numbered.alive (complete looper source member).1
    exact ⟨endpoint, found, connected, handle⟩

def leaving : List (Action Nat Bool) :=
  [.createConnected 0, .schedule 0 true, .schedule 0 false, .unschedule 0 true,
    .unschedule 0 false]

def succeeding : List (Action Nat Bool) := [.collect 0, .createConnected 1, .schedule 1 false]

theorem wait_iff_scheduled_careful :
    ∃ final, run step (initial [0, 1, 2, 3]) (leaving ++ succeeding) = some final ∧
      ∀ number source, wait final false number = some source ↔
        source = ({ channel := 1, readHandle := 4 } : Source Nat) ∧ number = 4 := by
  have disciplined : Respects step UnscheduledFirst (initial [0, 1, 2, 3])
      (leaving ++ succeeding) := by
    apply Respects.append
    · apply Respects.of_forall
      intro state action member
      simp only [leaving, List.mem_cons, List.not_mem_nil, or_false] at member
      rcases member with same | same | same | same | same <;> (rw [same]; exact trivial)
    · obtain ⟨left, ran, emptied⟩ :
          ∃ left, run step (initial [0, 1, 2, 3]) leaving = some left ∧
            ∀ looper, (left.waitSets looper).sources = [] :=
        ⟨_, rfl, by decide⟩
      intro middle performed next _
      rw [ran] at performed
      cases performed
      refine ⟨?_, fun _ _ => ⟨trivial, fun _ _ => ⟨trivial, trivial⟩⟩⟩
      intro looper source member
      rw [emptied looper] at member
      contradiction
  obtain ⟨final, performed, sources⟩ :
      ∃ final, run step (initial [0, 1, 2, 3]) (leaving ++ succeeding) = some final ∧
        (final.waitSets false).sources = [({ channel := 1, readHandle := 4 } : Source Nat)] :=
    ⟨_, rfl, by decide⟩
  refine ⟨final, performed, fun number source => ?_⟩
  rw [(wait_iff_scheduled disciplined performed false).1 number source, sources,
    List.mem_singleton]
  constructor
  · intro both
    refine ⟨both.1, ?_⟩
    rw [← both.2, both.1]
  · intro both
    rw [both.1, both.2]
    exact ⟨rfl, rfl⟩

end Runs

end CoreLib.ChannelCollection
