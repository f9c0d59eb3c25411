/-
What every action on channels and loopers keeps.

Two facts carry the rest.  The numbers of the channels and those of other code are open
and apart, and an entry of an epoll set belongs to a source in the `_sources` of that looper
whose channel still has its descriptor.  The sources that collected channels leave behind
have no entry.
-/

import CoreLib.ChannelCollection

set_option autoImplicit false

namespace CoreLib.ChannelCollection

open Foundation
open ChannelRegistration (Endpoint Source socketHandle socketHandle_spec)
open ChannelRegistration.State (sourceOf)

variable {Id Loop : Type} [DecidableEq Id] [DecidableEq Loop]

/-! ### Channels and numbers -/

structure Proper (openNumbers : List Int) (id : Id) (endpoint : Endpoint Id) : Prop where
  named : ∀ source, endpoint.source = some source → source.channel = id ∧
    (endpoint.channel.handle ≠ -1 →
      endpoint.channel.connected = true ∧ source.readHandle = endpoint.channel.handle)
  closed : endpoint.channel.handle = -1 → endpoint.channel.connected = false
  opened : endpoint.channel.handle ≠ -1 →
    endpoint.channel.handle ∈ openNumbers ∧ 0 < endpoint.channel.handle

/-- The numbers of the channels and those of others are open and apart. -/
structure Numbered (openNumbers others : List Int) (channels : Id → Option (Endpoint Id)) :
    Prop where
  proper : ∀ id endpoint, channels id = some endpoint → Proper openNumbers id endpoint
  distinct : ∀ first second left right, channels first = some left →
    channels second = some right → left.channel.handle ≠ -1 →
    left.channel.handle = right.channel.handle → first = second
  known : ∀ number ∈ others, number ∈ openNumbers
  foreign : ∀ id endpoint, channels id = some endpoint → endpoint.channel.handle ≠ -1 →
    endpoint.channel.handle ∉ others

section Numbers

variable {openNumbers others left : List Int} {channels : Id → Option (Endpoint Id)} {id : Id}
  {endpoint changed : Endpoint Id}

theorem found_update {other : Id} {holder : Endpoint Id}
    (found : Function.update channels id (some changed) other = some holder) :
    (other = id ∧ holder = changed) ∨ (other ≠ id ∧ channels other = some holder) := by
  by_cases same : other = id
  · subst other
    rw [Function.update_self] at found
    exact Or.inl ⟨rfl, (Option.some.inj found).symm⟩
  · rw [Function.update_of_ne same] at found
    exact Or.inr ⟨same, found⟩

omit [DecidableEq Id] in
theorem Proper.move (proper : Proper openNumbers id endpoint)
    (present : endpoint.channel.handle ≠ -1 → endpoint.channel.handle ∈ left) :
    Proper left id endpoint :=
  ⟨proper.named, proper.closed, fun opened => ⟨present opened, (proper.opened opened).2⟩⟩

theorem Numbered.set (numbered : Numbered openNumbers others channels)
    (proper : Proper left id changed) (known : ∀ number ∈ others, number ∈ left)
    (foreign : changed.channel.handle ≠ -1 → changed.channel.handle ∉ others)
    (apart : ∀ other holder, other ≠ id → channels other = some holder →
      holder.channel.handle ≠ -1 →
        holder.channel.handle ∈ left ∧ holder.channel.handle ≠ changed.channel.handle) :
    Numbered left others (Function.update channels id (some changed)) := by
  constructor
  · intro other holder found
    rcases found_update found with ⟨same, equal⟩ | ⟨different, earlier⟩
    · rw [same, equal]
      exact proper
    · exact (numbered.proper other holder earlier).move
        fun opened => (apart other holder different earlier opened).1
  · intro first second one two foundOne foundTwo opened equal
    rcases found_update foundOne with ⟨sameOne, isOne⟩ | ⟨apartOne, earlierOne⟩
    · rcases found_update foundTwo with ⟨sameTwo, _⟩ | ⟨apartTwo, earlierTwo⟩
      · rw [sameOne, sameTwo]
      · subst one
        rw [equal] at opened
        exact absurd equal.symm (apart second two apartTwo earlierTwo opened).2
    · rcases found_update foundTwo with ⟨_, isTwo⟩ | ⟨_, earlierTwo⟩
      · subst two
        exact absurd equal (apart first one apartOne earlierOne opened).2
      · exact numbered.distinct first second one two earlierOne earlierTwo opened equal
  · exact known
  · intro other holder found opened
    rcases found_update found with ⟨_, equal⟩ | ⟨_, earlier⟩
    · subst holder
      exact foreign opened
    · exact numbered.foreign other holder earlier opened

theorem Numbered.keep (numbered : Numbered openNumbers others channels)
    (found : channels id = some endpoint)
    (same : changed.channel.handle = endpoint.channel.handle)
    (proper : Proper openNumbers id changed) :
    Numbered openNumbers others (Function.update channels id (some changed)) := by
  apply numbered.set proper numbered.known
  · intro opened
    rw [same] at opened ⊢
    exact numbered.foreign id endpoint found opened
  · intro other holder different here opened
    refine ⟨((numbered.proper other holder here).opened opened).1, ?_⟩
    intro equal
    exact different (numbered.distinct other id holder endpoint here found opened
      (equal.trans same))

theorem Numbered.forget (numbered : Numbered openNumbers others channels) :
    Numbered openNumbers others (Function.update channels id none) := by
  have before : ∀ other holder, Function.update channels id none other = some holder →
      channels other = some holder := by
    intro other holder found
    by_cases same : other = id
    · rw [same, Function.update_self] at found
      contradiction
    · rwa [Function.update_of_ne same] at found
  constructor
  · intro other holder found
    exact numbered.proper other holder (before other holder found)
  · intro first second one two foundOne foundTwo
    exact numbered.distinct first second one two (before first one foundOne)
      (before second two foundTwo)
  · exact numbered.known
  · intro other holder found
    exact numbered.foreign other holder (before other holder found)

omit [DecidableEq Id] in
theorem Numbered.openOther (numbered : Numbered openNumbers others channels) {number : Int}
    (free : number ∉ openNumbers) :
    Numbered (number :: openNumbers) (number :: others) channels := by
  constructor
  · intro id endpoint found
    have proper := numbered.proper id endpoint found
    exact proper.move fun opened => List.mem_cons_of_mem _ (proper.opened opened).1
  · exact numbered.distinct
  · intro other member
    rcases List.mem_cons.mp member with same | earlier
    · rw [same]
      exact List.mem_cons_self ..
    · exact List.mem_cons_of_mem _ (numbered.known other earlier)
  · intro id endpoint found opened member
    rcases List.mem_cons.mp member with same | earlier
    · apply free
      rw [← same]
      exact ((numbered.proper id endpoint found).opened opened).1
    · exact numbered.foreign id endpoint found opened earlier

omit [DecidableEq Id] in
theorem Numbered.closeOther (numbered : Numbered openNumbers others channels) {number : Int}
    (mine : number ∈ others) :
    Numbered (openNumbers.erase number) (others.filter fun other => decide (other ≠ number))
      channels := by
  constructor
  · intro id endpoint found
    have proper := numbered.proper id endpoint found
    refine proper.move fun opened => ?_
    have different : endpoint.channel.handle ≠ number := by
      intro same
      apply numbered.foreign id endpoint found opened
      rw [same]
      exact mine
    exact (List.mem_erase_of_ne different).mpr (proper.opened opened).1
  · exact numbered.distinct
  · intro other member
    obtain ⟨present, different⟩ := List.mem_filter.mp member
    exact (List.mem_erase_of_ne (of_decide_eq_true different)).mpr
      (numbered.known other present)
  · intro id endpoint found opened member
    exact numbered.foreign id endpoint found opened (List.mem_filter.mp member).1

end Numbers

/-! ### Sources that can be signalled -/

/-- The channel of the source has an open handle and has cached this source. -/
def Alive (channels : Id → Option (Endpoint Id)) (source : Source Id) : Prop :=
  ∃ endpoint, channels source.channel = some endpoint ∧ endpoint.source = some source ∧
    endpoint.channel.handle ≠ -1

def Owns (state : State Id Loop) (looper : Loop) (source : Source Id) : Prop :=
  source ∈ (state.waitSets looper).sources ∧ Alive state.channels source

structure Sound (state : State Id Loop) : Prop where
  gone : ∀ id ∈ state.collected, state.channels id = none
  numbered : Numbered state.openNumbers state.others state.channels
  within : ∀ looper, Within (Owns state looper) (fun source => some source.readHandle)
    (state.waitSets looper).kernel

section Alive

variable {openNumbers others : List Int} {channels : Id → Option (Endpoint Id)} {id : Id}
  {endpoint changed : Endpoint Id} {source : Source Id}

theorem Alive.set (alive : Alive channels source)
    (kept : ∀ earlier, channels id = some earlier → earlier.source = some source →
      earlier.channel.handle ≠ -1 → changed.source = some source ∧ changed.channel.handle ≠ -1) :
    Alive (Function.update channels id (some changed)) source := by
  obtain ⟨holder, found, cached, opened⟩ := alive
  by_cases same : source.channel = id
  · rw [same] at found
    obtain ⟨still, stillOpened⟩ := kept holder found cached opened
    refine ⟨changed, ?_, still, stillOpened⟩
    rw [same, Function.update_self]
  · refine ⟨holder, ?_, cached, opened⟩
    rw [Function.update_of_ne same]
    exact found

theorem Alive.keep (alive : Alive channels source) (found : channels id = some endpoint)
    (handle : changed.channel.handle = endpoint.channel.handle)
    (cached : ∀ source, endpoint.source = some source → changed.source = some source) :
    Alive (Function.update channels id (some changed)) source := by
  apply alive.set
  intro earlier here kept opened
  rw [found] at here
  cases here
  refine ⟨cached source kept, ?_⟩
  rw [handle]
  exact opened

theorem Alive.other (alive : Alive channels source) (different : source.channel ≠ id)
    (value : Option (Endpoint Id)) : Alive (Function.update channels id value) source := by
  obtain ⟨holder, found, cached, opened⟩ := alive
  refine ⟨holder, ?_, cached, opened⟩
  rw [Function.update_of_ne different]
  exact found

omit [DecidableEq Id] in
/-- The number of a living source is the handle of its connected channel. -/
theorem Numbered.alive (numbered : Numbered openNumbers others channels)
    (alive : Alive channels source) :
    ∃ endpoint, channels source.channel = some endpoint ∧ endpoint.source = some source ∧
      endpoint.channel.connected = true ∧ endpoint.channel.handle = source.readHandle ∧
      source.readHandle ∈ openNumbers ∧ source.readHandle ≠ -1 := by
  obtain ⟨holder, found, cached, opened⟩ := alive
  have proper := numbered.proper _ holder found
  obtain ⟨connected, number⟩ := (proper.named source cached).2 opened
  rw [number]
  exact ⟨holder, found, cached, connected, rfl, (proper.opened opened).1, opened⟩

omit [DecidableEq Id] in
/-- Two living sources with the same number are one. -/
theorem Numbered.alive_unique (numbered : Numbered openNumbers others channels)
    {one two : Source Id} (aliveOne : Alive channels one) (aliveTwo : Alive channels two)
    (same : one.readHandle = two.readHandle) : one = two := by
  obtain ⟨left, foundLeft, cachedLeft, _, numberLeft, _, opened⟩ := numbered.alive aliveOne
  obtain ⟨right, foundRight, cachedRight, _, numberRight, _, _⟩ := numbered.alive aliveTwo
  have owner : one.channel = two.channel := by
    apply numbered.distinct _ _ left right foundLeft foundRight
    · rw [numberLeft]
      exact opened
    · rw [numberLeft, numberRight, same]
  rw [owner, foundRight] at foundLeft
  cases foundLeft
  rw [cachedRight] at cachedLeft
  exact (Option.some.inj cachedLeft).symm

end Alive

/-! ### What each action preserves -/

section Steps

variable {state : State Id Loop} {id : Id} {looper : Loop} {endpoint : Endpoint Id}

omit [DecidableEq Id] [DecidableEq Loop] in
theorem initial_sound (openNumbers : List Int) :
    Sound (initial openNumbers : State Id Loop) := by
  constructor
  · intro id member
    contradiction
  · constructor
    · intro id endpoint found
      contradiction
    · intro first second left right found
      contradiction
    · intro number member
      exact member
    · intro id endpoint found
      contradiction
  · intro looper
    exact within_empty _ _

theorem gone_set {collected : List Id} {channels : Id → Option (Endpoint Id)}
    (gone : ∀ other ∈ collected, channels other = none) (here : id ∉ collected)
    (value : Option (Endpoint Id)) :
    ∀ other ∈ collected, Function.update channels id value other = none := by
  intro other member
  have different : other ≠ id := by
    intro same
    rw [same] at member
    exact here member
  rw [Function.update_of_ne different]
  exact gone other member

omit [DecidableEq Id] [DecidableEq Loop] in
theorem Sound.present (sound : Sound state) (found : state.channels id = some endpoint) :
    id ∉ state.collected := by
  intro member
  have absent := sound.gone id member
  rw [found] at absent
  contradiction

omit [DecidableEq Loop] in
theorem Sound.create (sound : Sound state) (unused : state.unused id = true)
    {channel : Int → Channel} (handle : ∀ number, (channel number).handle = number) :
    Sound (state.create id channel) := by
  obtain ⟨absent, never⟩ := Bool.and_eq_true_iff.mp unused
  have fresh := Option.isNone_iff_eq_none.mp absent
  obtain ⟨positive, free, opened, kept, _⟩ := socketHandle_spec state.table
  constructor
  · exact gone_set sound.gone (of_decide_eq_true never) _
  · apply sound.numbered.set
    · constructor
      · intro source impossible
        contradiction
      · intro closed
        rw [handle] at closed
        omega
      · intro _
        rw [handle]
        exact ⟨opened, positive⟩
    · intro number member
      exact kept number (sound.numbered.known number member)
    · intro _ member
      rw [handle] at member
      exact free (sound.numbered.known _ member)
    · intro other holder _ found alive
      have present := ((sound.numbered.proper other holder found).opened alive).1
      refine ⟨kept _ present, ?_⟩
      intro same
      rw [handle] at same
      rw [same] at present
      exact free present
  · intro looper
    apply (sound.within looper).mono
    intro source owns
    refine ⟨owns.1, owns.2.other ?_ _⟩
    intro same
    obtain ⟨holder, found, _⟩ := owns.2
    rw [same, fresh] at found
    contradiction

omit [DecidableEq Loop] in
theorem Sound.setChannel (sound : Sound state) (found : state.channels id = some endpoint)
    {changed : Endpoint Id} (handle : changed.channel.handle = endpoint.channel.handle)
    (cached : ∀ source, endpoint.source = some source → changed.source = some source)
    (proper : Proper state.openNumbers id changed) : Sound (state.setChannel id changed) := by
  constructor
  · exact gone_set sound.gone (sound.present found) _
  · exact sound.numbered.keep found handle proper
  · intro looper
    exact (sound.within looper).mono fun source owns =>
      ⟨owns.1, owns.2.keep found handle cached⟩

omit [DecidableEq Loop] in
theorem Sound.tryConnect (sound : Sound state) (found : state.channels id = some endpoint)
    (accepted : Bool) : Sound (state.tryConnect id accepted endpoint) := by
  have proper := sound.numbered.proper id endpoint found
  unfold State.tryConnect
  by_cases connected : endpoint.channel.connected = true
  · rw [if_pos connected]
    exact sound
  · rw [if_neg connected]
    refine sound.setChannel found rfl (fun _ cached => cached) ?_
    constructor
    · intro source cached
      obtain ⟨owner, live⟩ := proper.named source cached
      refine ⟨owner, fun opened => ?_⟩
      exact absurd (live opened).1 connected
    · intro closed
      have shut : endpoint.channel.handle = -1 := closed
      simp only [shut, ne_eq, not_true_eq_false, decide_false, Bool.and_false]
    · exact proper.opened

omit [DecidableEq Id] in
theorem Sound.setWaitSet (sound : Sound state) {set : WaitSet (Source Id) (Interest Id)}
    (within : Within (fun source => source ∈ set.sources ∧ Alive state.channels source)
      (fun source => some source.readHandle) set.kernel) :
    Sound (state.setWaitSet looper set) := by
  refine ⟨sound.gone, sound.numbered, fun other => ?_⟩
  by_cases same : other = looper
  · subst other
    have here : (state.setWaitSet looper set).waitSets looper = set := Function.update_self ..
    rw [here]
    apply within.mono
    intro source both
    refine ⟨?_, both.2⟩
    rw [here]
    exact both.1
  · have here : (state.setWaitSet looper set).waitSets other = state.waitSets other :=
      Function.update_of_ne same ..
    rw [here]
    apply (sound.within other).mono
    intro source owns
    refine ⟨?_, owns.2⟩
    rw [here]
    exact owns.1

omit [DecidableEq Id] in
theorem Proper.scheduled {openNumbers : List Int} (proper : Proper openNumbers id endpoint)
    (connected : endpoint.channel.connected = true) :
    endpoint.channel.handle ≠ -1 ∧ (sourceOf id endpoint).channel = id ∧
      (sourceOf id endpoint).readHandle = endpoint.channel.handle ∧
      ∀ source, endpoint.source = some source → sourceOf id endpoint = source := by
  have opened : endpoint.channel.handle ≠ -1 := by
    intro closed
    rw [proper.closed closed] at connected
    contradiction
  cases cached : endpoint.source with
  | none =>
      have fresh : sourceOf id endpoint =
          { channel := id
            readHandle := endpoint.channel.handle } := by
        simp only [ChannelRegistration.State.sourceOf, cached]
      rw [fresh]
      refine ⟨opened, rfl, rfl, ?_⟩
      intro source impossible
      contradiction
  | some source =>
      obtain ⟨owner, live⟩ := proper.named source cached
      have same : sourceOf id endpoint = source := by
        simp only [ChannelRegistration.State.sourceOf, cached]
      rw [same]
      exact ⟨opened, owner, (live opened).2, fun _ same => Option.some.inj same⟩

omit [DecidableEq Loop] in
theorem Sound.cache (sound : Sound state) (found : state.channels id = some endpoint)
    (connected : endpoint.channel.connected = true) :
    Sound (state.setChannel id { endpoint with source := some (sourceOf id endpoint) }) ∧
      Alive (state.setChannel id
        { endpoint with source := some (sourceOf id endpoint) }).channels (sourceOf id endpoint) ∧
      ∀ source, endpoint.source = some source → some (sourceOf id endpoint) = some source := by
  have proper := sound.numbered.proper id endpoint found
  obtain ⟨opened, owner, number, same⟩ := proper.scheduled connected
  have kept : ∀ source, endpoint.source = some source →
      some (sourceOf id endpoint) = some source := by
    intro source held
    rw [same source held]
  refine ⟨sound.setChannel found rfl kept ?_, ?_, kept⟩
  · refine ⟨?_, proper.closed, proper.opened⟩
    intro source held
    cases held
    exact ⟨owner, fun _ => ⟨connected, number⟩⟩
  · refine ⟨{ endpoint with source := some (sourceOf id endpoint) }, ?_, rfl, opened⟩
    rw [owner]
    exact Function.update_self ..

theorem Sound.addSource (sound : Sound state) {source : Source Id}
    (alive : Alive state.channels source) :
    Sound (state.setWaitSet looper ((state.waitSets looper).addSource
      (updateInWaitSetHandle state.openNumbers) source).2) := by
  apply sound.setWaitSet
  have grown : ∀ other, other = source ∨ Owns state looper other →
      other ∈ ((state.waitSets looper).addSource
          (updateInWaitSetHandle state.openNumbers) source).2.sources ∧
        Alive state.channels other := by
    intro other either
    rcases either with equal | owns
    · rw [equal]
      exact ⟨WaitSet.mem_addSource.mpr (Or.inl rfl), alive⟩
    · exact ⟨WaitSet.mem_addSource.mpr (Or.inr owns.1), owns.2⟩
  rcases WaitSet.addSource_cases (updateInWaitSetHandle state.openNumbers)
    (state.waitSets looper) source with ⟨_, unchanged⟩ | ⟨_, _, _, kernel⟩
  · rw [unchanged]
    exact sound.within looper
  · rw [kernel]
    rcases Epoll.control_add_cases
      { openNumbers := state.openNumbers
        interest := (state.waitSets looper).kernel }
      source.readHandle source with unchanged | ⟨_, written⟩
    · simp only [updateInWaitSetHandle, unchanged]
      exact (sound.within looper).mono fun other owns => grown other (Or.inr owns)
    · simp only [updateInWaitSetHandle, written]
      exact ((sound.within looper).write rfl).mono grown

theorem Sound.schedule (sound : Sound state) (found : state.channels id = some endpoint) :
    Sound (state.schedule id looper endpoint) := by
  unfold State.schedule
  by_cases connected : endpoint.channel.connected = true
  · rw [if_pos connected]
    obtain ⟨cached, alive, _⟩ := sound.cache found connected
    exact cached.addSource alive
  · rw [if_neg connected]
    exact sound

theorem Sound.unschedule (sound : Sound state) : Sound (state.unschedule looper endpoint) := by
  unfold State.unschedule
  cases endpoint.source with
  | none => exact sound
  | some source =>
      apply sound.setWaitSet
      rcases WaitSet.removeSource_cases (updateInWaitSetHandle state.openNumbers)
        (state.waitSets looper) source with ⟨_, unchanged⟩ | ⟨_, _, _, kernel⟩
      · rw [unchanged]
        exact sound.within looper
      · have shrunk : ∀ other, other ≠ source ∧ Owns state looper other →
            other ∈ ((state.waitSets looper).removeSource
                (updateInWaitSetHandle state.openNumbers) source).2.sources ∧
              Alive state.channels other := by
          intro other both
          exact ⟨WaitSet.mem_removeSource.mpr ⟨both.1, both.2.1⟩, both.2.2⟩
        rw [kernel]
        rcases Epoll.control_delete_cases
          { openNumbers := state.openNumbers
            interest := (state.waitSets looper).kernel }
          source.readHandle source with ⟨closed, unchanged⟩ | ⟨_, deleted⟩
        · simp only [updateInWaitSetHandle, unchanged]
          intro number other entry
          obtain ⟨owns, key⟩ := sound.within looper number other entry
          refine ⟨shrunk other ⟨?_, owns⟩, key⟩
          intro same
          obtain ⟨_, _, _, _, _, opened, _⟩ := sound.numbered.alive owns.2
          rw [same] at opened
          exact closed opened
        · simp only [updateInWaitSetHandle, deleted]
          exact ((sound.within looper).delete rfl).mono shrunk

omit [DecidableEq Id] [DecidableEq Loop] in
theorem closeNumber_within (within : Within (Owns state looper)
      (fun source => some source.readHandle) (state.waitSets looper).kernel) (number : Int) :
    Within (fun source => source.readHandle ≠ number ∧ Owns state looper source)
      (fun source => some source.readHandle) ((state.closeNumber number).waitSets looper).kernel := by
  intro place source entry
  change Function.update (state.waitSets looper).kernel number none place = some source at entry
  by_cases same : place = number
  · rw [same, Function.update_self] at entry
    contradiction
  · rw [Function.update_of_ne same] at entry
    obtain ⟨owns, key⟩ := within place source entry
    refine ⟨⟨?_, owns⟩, key⟩
    rw [Option.some.inj key]
    exact same

omit [DecidableEq Loop] in
theorem Sound.terminate (sound : Sound state) (found : state.channels id = some endpoint) :
    Sound (state.terminate id endpoint) := by
  have proper := sound.numbered.proper id endpoint found
  have gone := gone_set sound.gone (sound.present found)
    (some { endpoint with channel := endpoint.channel.terminated })
  have quiet : ∀ left : List Int, Proper left id
      { endpoint with channel := endpoint.channel.terminated } := by
    intro left
    constructor
    · intro source cached
      exact ⟨(proper.named source cached).1, fun opened => absurd rfl opened⟩
    · intro _
      rfl
    · intro opened
      exact absurd rfl opened
  unfold State.terminate
  by_cases closed : endpoint.channel.handle = -1
  · rw [if_pos closed]
    refine ⟨gone, sound.numbered.keep found closed.symm (quiet _), fun looper => ?_⟩
    apply (sound.within looper).mono
    intro source owns
    refine ⟨owns.1, owns.2.set ?_⟩
    intro earlier here _ opened
    rw [found] at here
    cases here
    exact absurd closed opened
  · rw [if_neg closed]
    refine ⟨gone, ?_, fun looper => ?_⟩
    · apply sound.numbered.set (quiet _)
      · intro number member
        have different : number ≠ endpoint.channel.handle := by
          intro same
          rw [same] at member
          exact sound.numbered.foreign id endpoint found closed member
        exact (List.mem_erase_of_ne different).mpr (sound.numbered.known number member)
      · intro opened
        exact absurd rfl opened
      · intro other holder different here opened
        have present := ((sound.numbered.proper other holder here).opened opened).1
        have apart : holder.channel.handle ≠ endpoint.channel.handle := by
          intro same
          exact different (sound.numbered.distinct other id holder endpoint here found opened same)
        exact ⟨(List.mem_erase_of_ne apart).mpr present, opened⟩
    · apply (closeNumber_within (sound.within looper) _).mono
      intro source both
      obtain ⟨holder, here, _, _, number, _⟩ := sound.numbered.alive both.2.2
      refine ⟨both.2.1, both.2.2.other ?_ _⟩
      intro same
      rw [same, found] at here
      cases here
      exact both.1 number.symm

omit [DecidableEq Loop] in
theorem terminate_self (state : State Id Loop) (id : Id) (endpoint : Endpoint Id) :
    (state.terminate id endpoint).channels id =
      some { endpoint with channel := endpoint.channel.terminated } :=
  Function.update_self ..

omit [DecidableEq Loop] in
theorem Sound.collect (sound : Sound state) (found : state.channels id = some endpoint) :
    Sound (state.collect id endpoint) := by
  have terminated := sound.terminate found
  constructor
  · intro other member
    change Function.update (state.terminate id endpoint).channels id none other = none
    by_cases same : other = id
    · rw [same, Function.update_self]
    · rw [Function.update_of_ne same]
      rcases List.mem_cons.mp member with equal | earlier
      · exact absurd equal same
      · exact terminated.gone other earlier
  · exact terminated.numbered.forget
  · intro looper
    apply (terminated.within looper).mono
    intro source owns
    refine ⟨owns.1, owns.2.other ?_ _⟩
    intro same
    obtain ⟨holder, present, _, opened⟩ := owns.2
    rw [same, terminate_self] at present
    cases present
    exact opened rfl

omit [DecidableEq Id] [DecidableEq Loop] in
theorem Sound.openOther (sound : Sound state) : Sound state.openOther :=
  ⟨sound.gone, sound.numbered.openOther (lowestFree_spec state.openNumbers).2, sound.within⟩

omit [DecidableEq Id] [DecidableEq Loop] in
theorem Sound.closeOther (sound : Sound state) {number : Int} {next : State Id Loop}
    (closes : state.closeOther number = some next) : Sound next := by
  unfold State.closeOther at closes
  split at closes
  · rename_i mine
    cases closes
    refine ⟨sound.gone, sound.numbered.closeOther mine, fun looper => ?_⟩
    exact (closeNumber_within (sound.within looper) number).mono fun source both => both.2
  · contradiction

theorem Sound.step (sound : Sound state) {action : Action Id Loop} {next : State Id Loop}
    (enabled : ChannelCollection.step state action = some next) : Sound next := by
  cases action with
  | createNamed id name =>
      obtain ⟨unused, same⟩ := Option.ite_none_right_eq_some.mp enabled
      cases same
      exact sound.create unused fun _ => rfl
  | createConnected id =>
      obtain ⟨unused, same⟩ := Option.ite_none_right_eq_some.mp enabled
      cases same
      exact sound.create unused fun _ => rfl
  | tryConnect id accepted =>
      obtain ⟨endpoint, found, same⟩ := Option.map_eq_some_iff.mp enabled
      subst next
      exact sound.tryConnect found accepted
  | schedule id looper =>
      obtain ⟨endpoint, found, same⟩ := Option.map_eq_some_iff.mp enabled
      subst next
      exact sound.schedule found
  | unschedule id looper =>
      obtain ⟨endpoint, found, same⟩ := Option.map_eq_some_iff.mp enabled
      subst next
      exact sound.unschedule
  | terminate id =>
      obtain ⟨endpoint, found, same⟩ := Option.map_eq_some_iff.mp enabled
      subst next
      exact sound.terminate found
  | collect id =>
      obtain ⟨endpoint, found, same⟩ := Option.map_eq_some_iff.mp enabled
      subst next
      exact sound.collect found
  | openOther =>
      cases enabled
      exact sound.openOther
  | closeOther number => exact sound.closeOther enabled

end Steps

end CoreLib.ChannelCollection
