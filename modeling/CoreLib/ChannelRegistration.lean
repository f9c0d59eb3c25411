/-
Channels in the epoll set of one looper.

A channel caches the source that `source()` makes for it, and the source keeps the
handle number that the socket had then.  `terminate` closes the number without
telling the wait set, so the kernel may give it to the next channel while the old
source is still in `_sources`.
-/

import CoreLib.Channel
import CoreLib.Epoll
import CoreLib.WaitSet
import CoreLib.Foundation.Runs

set_option autoImplicit false

namespace CoreLib.ChannelRegistration

open Foundation

structure Source (Id : Type) where
  channel : Id
  readHandle : Int
deriving DecidableEq

structure Endpoint (Id : Type) where
  channel : Channel
  source : Option (Source Id)

structure State (Id : Type) where
  channels : Id → Option (Endpoint Id)
  waitSet : WaitSet (Source Id) (Epoll (Source Id))

inductive Action (Id : Type) where
  | create (id : Id)
  | schedule (id : Id)
  | terminate (id : Id)
  | unschedule (id : Id)

variable {Id : Type} [DecidableEq Id]

def initial (openNumbers : List Int) : State Id :=
  { channels := fun _ => none
    waitSet := .empty
      { openNumbers := openNumbers
        interest := fun _ => none } }

def updateInWaitSetHandle (source : Source Id) (shouldAdd : Bool) (kernel : Epoll (Source Id)) :
    Epoll (Source Id) :=
  kernel.control shouldAdd source.readHandle source

/-- The handle of a new socket.  The constructor of Socket takes the number 0 for a
missing handle and asks the kernel for another one. -/
def socketHandle (kernel : Epoll (Source Id)) : Int × Epoll (Source Id) :=
  if kernel.allocate.1 = 0 then kernel.allocate.2.allocate else kernel.allocate

namespace State

variable (state : State Id) (id : Id)

def setKernel (kernel : Epoll (Source Id)) : State Id :=
  { state with waitSet := { state.waitSet with kernel := kernel } }

def setChannel (endpoint : Endpoint Id) : State Id :=
  { state with channels := Function.update state.channels id (some endpoint) }

def create : State Id :=
  let made := socketHandle state.waitSet.kernel
  (state.setKernel made.2).setChannel id
    { channel := Channel.adopted made.1
      source := none }

def sourceOf (endpoint : Endpoint Id) : Source Id :=
  match endpoint.source with
  | some source => source
  | none =>
      { channel := id
        readHandle := endpoint.channel.handle }

def schedule (endpoint : Endpoint Id) : State Id :=
  if endpoint.channel.connected then
    let source := sourceOf id endpoint
    let cached := state.setChannel id { endpoint with source := some source }
    { cached with
      waitSet := (cached.waitSet.addSource updateInWaitSetHandle source).2 }
  else state

def terminate (endpoint : Endpoint Id) : State Id :=
  let closed :=
    if endpoint.channel.handle = -1 then state
    else state.setKernel (state.waitSet.kernel.close endpoint.channel.handle)
  closed.setChannel id { endpoint with channel := endpoint.channel.terminated }

/-- A null `_source` is never in the set. -/
def unschedule (endpoint : Endpoint Id) : State Id :=
  match endpoint.source with
  | none => state
  | some source =>
      { state with waitSet := (state.waitSet.removeSource updateInWaitSetHandle source).2 }

end State

def step (state : State Id) : Action Id → Option (State Id)
  | .create id =>
      match state.channels id with
      | none => some (state.create id)
      | some _ => none
  | .schedule id => (state.channels id).map (state.schedule id)
  | .terminate id => (state.channels id).map (state.terminate id)
  | .unschedule id => (state.channels id).map state.unschedule

/-- The channel is connected and its source is in `_sources`. -/
structure Scheduled (state : State Id) (id : Id) (endpoint : Endpoint Id)
    (source : Source Id) : Prop where
  found : state.channels id = some endpoint
  connected : endpoint.channel.connected = true
  cached : endpoint.source = some source
  member : source ∈ state.waitSet.sources

/-- Each connected and scheduled channel has its own handle registered with its own
source. -/
def Registered (state : State Id) : Prop :=
  ∀ id endpoint source, Scheduled state id endpoint source →
    state.waitSet.kernel.interest endpoint.channel.handle = some source

/-- When a scheduled source is removed, no other connected and scheduled channel holds
the number that the source has kept. -/
def RemovesOwnNumber (state : State Id) : Action Id → Prop
  | .unschedule id => ∀ endpoint source, state.channels id = some endpoint →
      endpoint.source = some source → source ∈ state.waitSet.sources →
      ∀ other holder held, Scheduled state other holder held →
        holder.channel.handle = source.readHandle → other = id
  | _ => True

/-! ### The invariant -/

def Live (state : State Id) (source : Source Id) : Prop :=
  ∃ endpoint, Scheduled state source.channel endpoint source

structure Sound (state : State Id) : Prop where
  owned : ∀ source ∈ state.waitSet.sources, ∃ endpoint,
    state.channels source.channel = some endpoint ∧ endpoint.source = some source
  named : ∀ id endpoint source, state.channels id = some endpoint →
    endpoint.source = some source → source.channel = id ∧
      (endpoint.channel.connected = true → source.readHandle = endpoint.channel.handle)
  opened : ∀ id endpoint, state.channels id = some endpoint →
    endpoint.channel.connected = true →
      endpoint.channel.handle ∈ state.waitSet.kernel.openNumbers ∧ 0 < endpoint.channel.handle
  closed : ∀ id endpoint, state.channels id = some endpoint →
    endpoint.channel.connected = false → endpoint.channel.handle = -1
  distinct : ∀ first second left right, state.channels first = some left →
    state.channels second = some right → left.channel.connected = true →
    right.channel.connected = true → left.channel.handle = right.channel.handle → first = second
  mirrors : Mirrors (Live state) Source.readHandle state.waitSet.kernel.interest

omit [DecidableEq Id] in
theorem Scheduled.source_eq {state : State Id} {id : Id} {endpoint holder : Endpoint Id}
    {source other : Source Id} (scheduled : Scheduled state id holder other)
    (found : state.channels id = some endpoint) (cached : endpoint.source = some source) :
    other = source := by
  have here := scheduled.found
  rw [found] at here
  cases here
  have both := scheduled.cached
  rw [cached] at both
  exact (Option.some.inj both).symm

omit [DecidableEq Id] in
theorem Sound.number {state : State Id} (sound : Sound state) {id : Id} {endpoint : Endpoint Id}
    {source : Source Id} (scheduled : Scheduled state id endpoint source) :
    source.readHandle = endpoint.channel.handle :=
  (sound.named id endpoint source scheduled.found scheduled.cached).2 scheduled.connected

omit [DecidableEq Id] in
theorem Sound.registered {state : State Id} (sound : Sound state) : Registered state := by
  intro id endpoint source scheduled
  obtain ⟨same, _⟩ := sound.named id endpoint source scheduled.found scheduled.cached
  subst id
  exact (sound.mirrors _ source).mpr ⟨⟨endpoint, scheduled⟩, sound.number scheduled⟩

omit [DecidableEq Id] in
theorem initial_sound (openNumbers : List Int) : Sound (initial openNumbers : State Id) := by
  have nobody : ∀ id, (initial openNumbers : State Id).channels id = none := fun _ => rfl
  refine ⟨?_, ?_, ?_, ?_, ?_, mirrors_empty ?_⟩
  · intro source member
    contradiction
  · intro id endpoint source found
    rw [nobody id] at found
    contradiction
  · intro id endpoint found
    rw [nobody id] at found
    contradiction
  · intro id endpoint found
    rw [nobody id] at found
    contradiction
  · intro first second left right found
    rw [nobody first] at found
    contradiction
  · rintro source ⟨endpoint, scheduled⟩
    have found := scheduled.found
    rw [nobody] at found
    contradiction

/-! ### Changing one channel -/

theorem setChannel_same (state : State Id) (id : Id) (changed : Endpoint Id) :
    (state.setChannel id changed).channels id = some changed :=
  Function.update_self ..

theorem setChannel_other (state : State Id) {id other : Id} (different : other ≠ id)
    (changed : Endpoint Id) :
    (state.setChannel id changed).channels other = state.channels other :=
  Function.update_of_ne different ..

theorem found_setChannel {state : State Id} {id other : Id} {changed holder : Endpoint Id}
    (found : (state.setChannel id changed).channels other = some holder) :
    (other = id ∧ holder = changed) ∨ (other ≠ id ∧ state.channels other = some holder) := by
  by_cases same : other = id
  · subst other
    rw [setChannel_same] at found
    exact Or.inl ⟨rfl, (Option.some.inj found).symm⟩
  · rw [setChannel_other state same] at found
    exact Or.inr ⟨same, found⟩

omit [DecidableEq Id] in
theorem socketHandle_spec (kernel : Epoll (Source Id)) :
    0 < (socketHandle kernel).1 ∧ (socketHandle kernel).1 ∉ kernel.openNumbers ∧
      (socketHandle kernel).1 ∈ (socketHandle kernel).2.openNumbers ∧
      (∀ number ∈ kernel.openNumbers, number ∈ (socketHandle kernel).2.openNumbers) ∧
      (socketHandle kernel).2.interest = kernel.interest := by
  obtain ⟨low, unused⟩ := lowestFree_spec kernel.openNumbers
  unfold socketHandle
  by_cases zero : kernel.allocate.1 = 0
  · rw [if_pos zero]
    obtain ⟨lowNext, unusedNext⟩ := lowestFree_spec kernel.allocate.2.openNumbers
    have different : kernel.allocate.2.allocate.1 ≠ kernel.allocate.1 := by
      intro same
      apply unusedNext
      change kernel.allocate.2.allocate.1 ∈ kernel.allocate.1 :: kernel.openNumbers
      rw [same]
      exact List.mem_cons_self ..
    refine ⟨?_, ?_, List.mem_cons_self .., ?_, rfl⟩
    · change 0 ≤ kernel.allocate.2.allocate.1 at lowNext
      omega
    · intro used
      exact unusedNext (List.mem_cons_of_mem _ used)
    · intro number used
      exact List.mem_cons_of_mem _ (List.mem_cons_of_mem _ used)
  · rw [if_neg zero]
    refine ⟨?_, unused, List.mem_cons_self .., fun number => List.mem_cons_of_mem _, rfl⟩
    change 0 ≤ kernel.allocate.1 at low
    omega

/-! ### What each action preserves -/

theorem create_sound {state : State Id} (sound : Sound state) {id : Id}
    (fresh : state.channels id = none) : Sound (state.create id) := by
  obtain ⟨positive, unused, opened, kept, interest⟩ := socketHandle_spec state.waitSet.kernel
  have before : ∀ other holder, (state.create id).channels other = some holder →
      (other = id ∧ holder = { channel := Channel.adopted (socketHandle state.waitSet.kernel).1
                               source := none }) ∨
        (other ≠ id ∧ state.channels other = some holder) :=
    fun other holder found => found_setChannel found
  have old : ∀ other holder, state.channels other = some holder →
      (state.create id).channels other = some holder := by
    intro other holder found
    have different : other ≠ id := by
      intro same
      rw [same, fresh] at found
      contradiction
    exact (setChannel_other _ different _).trans found
  refine ⟨?_, ?_, ?_, ?_, ?_, ?_⟩
  · intro source member
    obtain ⟨endpoint, found, cached⟩ := sound.owned source member
    exact ⟨endpoint, old _ _ found, cached⟩
  · intro other holder source found cached
    rcases before other holder found with ⟨_, same⟩ | ⟨_, earlier⟩
    · subst holder
      contradiction
    · exact sound.named other holder source earlier cached
  · intro other holder found connected
    rcases before other holder found with ⟨_, same⟩ | ⟨_, earlier⟩
    · subst holder
      exact ⟨opened, positive⟩
    · obtain ⟨present, above⟩ := sound.opened other holder earlier connected
      exact ⟨kept _ present, above⟩
  · intro other holder found gone
    rcases before other holder found with ⟨_, same⟩ | ⟨_, earlier⟩
    · subst holder
      contradiction
    · exact sound.closed other holder earlier gone
  · intro first second left right foundLeft foundRight leftOn rightOn equal
    rcases before first left foundLeft with ⟨leftNew, same⟩ | ⟨_, leftOld⟩
    · subst left
      rcases before second right foundRight with ⟨rightNew, _⟩ | ⟨_, rightOld⟩
      · rw [leftNew, rightNew]
      · have present := (sound.opened second right rightOld rightOn).1
        rw [← equal] at present
        exact absurd present unused
    · rcases before second right foundRight with ⟨_, same⟩ | ⟨_, rightOld⟩
      · subst right
        have present := (sound.opened first left leftOld leftOn).1
        rw [equal] at present
        exact absurd present unused
      · exact sound.distinct first second left right leftOld rightOld leftOn rightOn equal
  · change Mirrors _ _ (socketHandle state.waitSet.kernel).2.interest
    rw [interest]
    refine sound.mirrors.congr fun source => ⟨?_, ?_⟩
    · rintro ⟨endpoint, scheduled⟩
      exact ⟨endpoint, old _ _ scheduled.found, scheduled.connected, scheduled.cached,
        scheduled.member⟩
    · rintro ⟨endpoint, scheduled⟩
      rcases before _ endpoint scheduled.found with ⟨_, same⟩ | ⟨_, earlier⟩
      · subst endpoint
        have cached := scheduled.cached
        contradiction
      · exact ⟨endpoint, earlier, scheduled.connected, scheduled.cached, scheduled.member⟩

private theorem cache_sound {state : State Id} (sound : Sound state) {id : Id}
    {endpoint : Endpoint Id} (found : state.channels id = some endpoint)
    (connected : endpoint.channel.connected = true) :
    Sound (state.setChannel id
      { endpoint with source := some (State.sourceOf id endpoint) }) := by
  have source : (State.sourceOf id endpoint).channel = id ∧
      (State.sourceOf id endpoint).readHandle = endpoint.channel.handle := by
    unfold State.sourceOf
    split
    · rename_i source cached
      obtain ⟨same, number⟩ := sound.named id endpoint source found cached
      exact ⟨same, number connected⟩
    · exact ⟨rfl, rfl⟩
  have kept : ∀ source holder, state.channels source.channel = some holder →
      holder.source = some source →
      ∃ changed, (state.setChannel id { endpoint with
          source := some (State.sourceOf id endpoint) }).channels source.channel = some changed ∧
        changed.channel = holder.channel ∧ changed.source = some source := by
    intro source holder here cached
    by_cases same : source.channel = id
    · rw [same, found] at here
      cases here
      refine ⟨{ endpoint with source := some (State.sourceOf id endpoint) }, ?_, rfl, ?_⟩
      · rw [same]
        exact setChannel_same ..
      · simp only [State.sourceOf, cached]
    · exact ⟨holder, (setChannel_other _ same _).trans here, rfl, cached⟩
  have before : ∀ other holder, (state.setChannel id { endpoint with
        source := some (State.sourceOf id endpoint) }).channels other = some holder →
      ∃ earlier, state.channels other = some earlier ∧ earlier.channel = holder.channel := by
    intro other holder here
    rcases found_setChannel here with ⟨same, equal⟩ | ⟨_, earlier⟩
    · subst other holder
      exact ⟨endpoint, found, rfl⟩
    · exact ⟨holder, earlier, rfl⟩
  refine ⟨?_, ?_, ?_, ?_, ?_, ?_⟩
  · intro other member
    obtain ⟨holder, here, cached⟩ := sound.owned other member
    obtain ⟨changed, there, _, same⟩ := kept other holder here cached
    exact ⟨changed, there, same⟩
  · intro other holder kept here cached
    rcases found_setChannel here with ⟨same, equal⟩ | ⟨_, earlier⟩
    · subst other holder
      cases cached
      exact ⟨source.1, fun _ => source.2⟩
    · exact sound.named other holder kept earlier cached
  · intro other holder here on
    obtain ⟨earlier, there, same⟩ := before other holder here
    rw [← same] at on ⊢
    exact sound.opened other earlier there on
  · intro other holder here off
    obtain ⟨earlier, there, same⟩ := before other holder here
    rw [← same] at off ⊢
    exact sound.closed other earlier there off
  · intro first second left right foundLeft foundRight leftOn rightOn equal
    obtain ⟨oldLeft, thereLeft, sameLeft⟩ := before first left foundLeft
    obtain ⟨oldRight, thereRight, sameRight⟩ := before second right foundRight
    rw [← sameLeft] at leftOn equal
    rw [← sameRight] at rightOn equal
    exact sound.distinct first second _ _ thereLeft thereRight leftOn rightOn equal
  · refine sound.mirrors.congr fun source => ⟨?_, ?_⟩
    · rintro ⟨holder, scheduled⟩
      obtain ⟨changed, there, same, cached⟩ :=
        kept source holder scheduled.found scheduled.cached
      exact ⟨changed, there, by rw [same]; exact scheduled.connected, cached, scheduled.member⟩
    · rintro ⟨changed, scheduled⟩
      obtain ⟨holder, here, cached⟩ := sound.owned source scheduled.member
      obtain ⟨earlier, there, same⟩ := before _ changed scheduled.found
      rw [here] at there
      cases there
      exact ⟨holder, here, by rw [same]; exact scheduled.connected, cached, scheduled.member⟩

omit [DecidableEq Id] in
private theorem Sound.withWaitSet {state : State Id} (sound : Sound state)
    {waitSet : WaitSet (Source Id) (Epoll (Source Id))}
    (owned : ∀ source ∈ waitSet.sources, ∃ endpoint,
      state.channels source.channel = some endpoint ∧ endpoint.source = some source)
    (numbers : waitSet.kernel.openNumbers = state.waitSet.kernel.openNumbers)
    (mirrors : Mirrors (Live { state with waitSet := waitSet }) Source.readHandle
      waitSet.kernel.interest) : Sound { state with waitSet := waitSet } :=
  { owned := owned
    named := sound.named
    opened := by
      intro id endpoint found connected
      rw [numbers]
      exact sound.opened id endpoint found connected
    closed := sound.closed
    distinct := sound.distinct
    mirrors := mirrors }

private theorem add_sound {state : State Id} (sound : Sound state) {id : Id}
    {endpoint : Endpoint Id} {source : Source Id} (found : state.channels id = some endpoint)
    (connected : endpoint.channel.connected = true) (cached : endpoint.source = some source) :
    Sound { state with
      waitSet := (state.waitSet.addSource updateInWaitSetHandle source).2 } := by
  obtain ⟨same, number⟩ := sound.named id endpoint source found cached
  have number := number connected
  subst id
  rcases WaitSet.addSource_cases updateInWaitSetHandle state.waitSet source with
    ⟨_, unchanged⟩ | ⟨absent, _, sources, kernel⟩
  · rw [unchanged]
    exact sound
  · have opened : source.readHandle ∈ state.waitSet.kernel.openNumbers := by
      rw [number]
      exact (sound.opened _ endpoint found connected).1
    have unused : ∀ other, Live state other → other.readHandle ≠ source.readHandle := by
      rintro other ⟨holder, scheduled⟩ equal
      have held := sound.number scheduled
      have owner := sound.distinct _ _ holder endpoint scheduled.found found scheduled.connected
        connected (by rw [← held, ← number, equal])
      have member := scheduled.member
      rw [owner] at scheduled
      rw [scheduled.source_eq found cached] at member
      exact absent member
    have updated : (state.waitSet.addSource updateInWaitSetHandle source).2.kernel =
        { state.waitSet.kernel with
          interest := Function.update state.waitSet.kernel.interest source.readHandle
            (some source) } :=
      kernel.trans (Epoll.control_add opened (sound.mirrors.free unused) source)
    refine sound.withWaitSet ?_ (by rw [updated]) ?_
    · intro other member
      rcases WaitSet.mem_addSource.mp member with equal | old
      · subst other
        exact ⟨endpoint, found, cached⟩
      · exact sound.owned other old
    · rw [updated]
      refine (sound.mirrors.insert source unused).congr fun other => ⟨?_, ?_⟩
      · rintro (equal | ⟨holder, scheduled⟩)
        · subst other
          exact ⟨endpoint, found, connected, cached, WaitSet.mem_addSource.mpr (Or.inl rfl)⟩
        · exact ⟨holder, scheduled.found, scheduled.connected, scheduled.cached,
            WaitSet.mem_addSource.mpr (Or.inr scheduled.member)⟩
      · rintro ⟨holder, scheduled⟩
        rcases WaitSet.mem_addSource.mp scheduled.member with equal | old
        · exact Or.inl equal
        · exact Or.inr ⟨holder, scheduled.found, scheduled.connected, scheduled.cached, old⟩

theorem schedule_sound {state : State Id} (sound : Sound state) {id : Id}
    {endpoint : Endpoint Id} (found : state.channels id = some endpoint) :
    Sound (state.schedule id endpoint) := by
  unfold State.schedule
  by_cases connected : endpoint.channel.connected = true
  · rw [if_pos connected]
    have cached := setChannel_same state id
      { endpoint with source := some (State.sourceOf id endpoint) }
    exact add_sound (cache_sound sound found connected) cached connected rfl
  · rw [if_neg connected]
    exact sound

/-! ### Termination -/

theorem terminate_other {state : State Id} {id other : Id} (different : other ≠ id)
    (endpoint : Endpoint Id) :
    (state.terminate id endpoint).channels other = state.channels other := by
  refine (setChannel_other _ different _).trans ?_
  split <;> rfl

theorem terminate_sources (state : State Id) (id : Id) (endpoint : Endpoint Id) :
    (state.terminate id endpoint).waitSet.sources = state.waitSet.sources := by
  simp only [State.terminate, State.setChannel]
  split <;> rfl

theorem found_terminate {state : State Id} {id other : Id} {endpoint holder : Endpoint Id}
    (found : (state.terminate id endpoint).channels other = some holder) :
    (other = id ∧ holder = { endpoint with channel := endpoint.channel.terminated }) ∨
      (other ≠ id ∧ state.channels other = some holder) := by
  rcases found_setChannel found with new | ⟨different, _⟩
  · exact Or.inl new
  · rw [terminate_other different] at found
    exact Or.inr ⟨different, found⟩

/-- The terminated channel is the only one whose source stops being live. -/
theorem live_terminate {state : State Id} {id : Id} {endpoint : Endpoint Id}
    (source : Source Id) :
    Live (state.terminate id endpoint) source ↔ Live state source ∧ source.channel ≠ id := by
  constructor
  · rintro ⟨holder, scheduled⟩
    have member := scheduled.member
    rw [terminate_sources] at member
    rcases found_terminate scheduled.found with ⟨_, equal⟩ | ⟨different, earlier⟩
    · subst holder
      have on := scheduled.connected
      contradiction
    · exact ⟨⟨holder, earlier, scheduled.connected, scheduled.cached, member⟩, different⟩
  · rintro ⟨⟨holder, scheduled⟩, different⟩
    refine ⟨holder, (terminate_other different _).trans scheduled.found, scheduled.connected,
      scheduled.cached, ?_⟩
    rw [terminate_sources]
    exact scheduled.member

omit [DecidableEq Id] in
private theorem Sound.others {state : State Id} (sound : Sound state) {id other : Id}
    {endpoint holder : Endpoint Id} (found : state.channels id = some endpoint)
    (opened : endpoint.channel.handle ≠ -1) (different : other ≠ id)
    (here : state.channels other = some holder) (on : holder.channel.connected = true) :
    holder.channel.handle ≠ endpoint.channel.handle := by
  intro equal
  have connected : endpoint.channel.connected = true := by
    cases off : endpoint.channel.connected with
    | true => rfl
    | false => exact absurd (sound.closed id endpoint found off) opened
  exact different (sound.distinct other id holder endpoint here found on connected equal)

/-- Closing the number takes exactly the registration of the terminated channel away. -/
private theorem terminate_mirrors {state : State Id} (sound : Sound state) {id : Id}
    {endpoint : Endpoint Id} (found : state.channels id = some endpoint) :
    Mirrors (Live (state.terminate id endpoint)) Source.readHandle
      (state.terminate id endpoint).waitSet.kernel.interest := by
  by_cases closed : endpoint.channel.handle = -1
  · have interest : (state.terminate id endpoint).waitSet.kernel.interest =
        state.waitSet.kernel.interest := by
      simp only [State.terminate, State.setChannel, if_pos closed]
    rw [interest]
    refine sound.mirrors.congr fun source => ?_
    rw [live_terminate source]
    refine ⟨fun alive => ⟨alive, ?_⟩, And.left⟩
    intro same
    obtain ⟨holder, scheduled⟩ := alive
    have here := scheduled.found
    rw [same, found] at here
    cases here
    have positive := (sound.opened id endpoint found scheduled.connected).2
    omega
  · have interest : (state.terminate id endpoint).waitSet.kernel.interest =
        Function.update state.waitSet.kernel.interest endpoint.channel.handle none := by
      simp only [State.terminate, State.setChannel, if_neg closed]
      rfl
    rw [interest]
    refine (sound.mirrors.erase endpoint.channel.handle).congr fun source => ?_
    rw [live_terminate source]
    refine and_congr_right fun alive => ?_
    obtain ⟨holder, scheduled⟩ := alive
    have number := sound.number scheduled
    constructor
    · intro different same
      have here := scheduled.found
      rw [same, found] at here
      cases here
      exact different number
    · intro different
      rw [number]
      exact sound.others found closed different scheduled.found scheduled.connected

theorem terminate_sound {state : State Id} (sound : Sound state) {id : Id}
    {endpoint : Endpoint Id} (found : state.channels id = some endpoint) :
    Sound (state.terminate id endpoint) := by
  refine ⟨?_, ?_, ?_, ?_, ?_, terminate_mirrors sound found⟩
  · intro source member
    rw [terminate_sources] at member
    obtain ⟨holder, here, cached⟩ := sound.owned source member
    by_cases same : source.channel = id
    · rw [same, found] at here
      cases here
      refine ⟨{ endpoint with channel := endpoint.channel.terminated }, ?_, cached⟩
      rw [same]
      exact setChannel_same ..
    · exact ⟨holder, (terminate_other same _).trans here, cached⟩
  · intro other holder source here cached
    rcases found_terminate here with ⟨same, equal⟩ | ⟨_, earlier⟩
    · subst other holder
      obtain ⟨named, _⟩ := sound.named id endpoint source found cached
      exact ⟨named, nofun⟩
    · exact sound.named other holder source earlier cached
  · intro other holder here on
    rcases found_terminate here with ⟨_, equal⟩ | ⟨different, earlier⟩
    · subst holder
      contradiction
    · obtain ⟨present, positive⟩ := sound.opened other holder earlier on
      refine ⟨?_, positive⟩
      simp only [State.terminate, State.setChannel]
      split
      · exact present
      · rename_i opened
        have apart := sound.others found opened different earlier on
        exact (List.mem_erase_of_ne apart).mpr present
  · intro other holder here off
    rcases found_terminate here with ⟨_, equal⟩ | ⟨_, earlier⟩
    · subst holder
      rfl
    · exact sound.closed other holder earlier off
  · intro first second left right foundLeft foundRight leftOn rightOn equal
    rcases found_terminate foundLeft with ⟨_, same⟩ | ⟨_, oldLeft⟩
    · subst left
      contradiction
    · rcases found_terminate foundRight with ⟨_, same⟩ | ⟨_, oldRight⟩
      · subst right
        contradiction
      · exact sound.distinct first second left right oldLeft oldRight leftOn rightOn equal

/-! ### Removal -/

/-- Removing a source whose number no other connected and scheduled channel holds. -/
theorem unschedule_sound {state : State Id} (sound : Sound state) {id : Id}
    {endpoint : Endpoint Id} (found : state.channels id = some endpoint)
    (own : RemovesOwnNumber state (.unschedule id)) : Sound (state.unschedule endpoint) := by
  unfold State.unschedule
  cases cached : endpoint.source with
  | none => exact sound
  | some source =>
      dsimp only
      rcases WaitSet.removeSource_cases updateInWaitSetHandle state.waitSet source with
        ⟨_, unchanged⟩ | ⟨present, _, sources, kernel⟩
      · rw [unchanged]
        exact sound
      · have numbers : (state.waitSet.removeSource updateInWaitSetHandle source).2.kernel.openNumbers
            = state.waitSet.kernel.openNumbers := by
          rw [kernel]
          exact Epoll.control_openNumbers ..
        have live : ∀ other, Live { state with
              waitSet := (state.waitSet.removeSource updateInWaitSetHandle source).2 } other ↔
            Live state other ∧ other ≠ source := by
          intro other
          constructor
          · rintro ⟨holder, scheduled⟩
            obtain ⟨different, member⟩ := WaitSet.mem_removeSource.mp scheduled.member
            exact ⟨⟨holder, scheduled.found, scheduled.connected, scheduled.cached, member⟩,
              different⟩
          · rintro ⟨⟨holder, scheduled⟩, different⟩
            exact ⟨holder, scheduled.found, scheduled.connected, scheduled.cached,
              WaitSet.mem_removeSource.mpr ⟨different, scheduled.member⟩⟩
        refine sound.withWaitSet ?_ numbers ?_
        · intro other member
          exact sound.owned other (WaitSet.mem_removeSource.mp member).2
        · rw [kernel]
          by_cases opened : source.readHandle ∈ state.waitSet.kernel.openNumbers
          · rw [updateInWaitSetHandle, Epoll.control_delete opened]
            refine (sound.mirrors.erase source.readHandle).congr fun other => ?_
            rw [live other]
            refine and_congr_right fun alive => ?_
            constructor
            · intro different same
              rw [same] at different
              exact different rfl
            · intro different same
              obtain ⟨holder, scheduled⟩ := alive
              have number := sound.number scheduled
              have owner := own endpoint source found cached present _ holder other scheduled
                (by rw [← number, same])
              rw [owner] at scheduled
              exact different (scheduled.source_eq found cached)
          · rw [updateInWaitSetHandle, Epoll.control_closed opened]
            refine sound.mirrors.congr fun other => ?_
            rw [live other]
            refine ⟨fun alive => ⟨alive, ?_⟩, And.left⟩
            intro same
            subst other
            obtain ⟨holder, scheduled⟩ := alive
            apply opened
            rw [sound.number scheduled]
            exact (sound.opened _ holder scheduled.found scheduled.connected).1

theorem step_sound {state next : State Id} {action : Action Id} (sound : Sound state)
    (own : RemovesOwnNumber state action) (enabled : step state action = some next) :
    Sound next := by
  cases action with
  | create id =>
      simp only [step] at enabled
      split at enabled
      · rename_i fresh
        cases enabled
        exact create_sound sound fresh
      · contradiction
  | schedule id =>
      obtain ⟨endpoint, found, same⟩ := Option.map_eq_some_iff.mp enabled
      subst next
      exact schedule_sound sound found
  | terminate id =>
      obtain ⟨endpoint, found, same⟩ := Option.map_eq_some_iff.mp enabled
      subst next
      exact terminate_sound sound found
  | unschedule id =>
      obtain ⟨endpoint, found, same⟩ := Option.map_eq_some_iff.mp enabled
      subst next
      exact unschedule_sound sound found own

/-! ### Stale numbers -/

/-- Removing a source whose number now belongs to another connected and scheduled
channel removes the registration of that channel. -/
theorem stale_removal {state next : State Id} {action : Action Id} (sound : Sound state)
    (stale : ¬ RemovesOwnNumber state action) (enabled : step state action = some next) :
    ¬ Registered next := by
  cases action with
  | unschedule id =>
      simp only [RemovesOwnNumber, not_forall] at stale
      obtain ⟨endpoint, source, found, cached, present, other, holder, held, scheduled, number,
        different⟩ := stale
      obtain ⟨removed, foundAgain, same⟩ := Option.map_eq_some_iff.mp enabled
      rw [found] at foundAgain
      cases foundAgain
      rcases WaitSet.removeSource_cases updateInWaitSetHandle state.waitSet source with
        ⟨absent, _⟩ | ⟨_, _, _, kernel⟩
      · exact absurd present absent
      · simp only [State.unschedule, cached] at same
        subst next
        intro registered
        have remains : Scheduled { state with
            waitSet := (state.waitSet.removeSource updateInWaitSetHandle source).2 }
              other holder held := by
          refine ⟨scheduled.found, scheduled.connected, scheduled.cached,
            WaitSet.mem_removeSource.mpr ⟨?_, scheduled.member⟩⟩
          intro equal
          subst held
          have owner := (sound.named other holder source scheduled.found scheduled.cached).1
          have original := (sound.named id endpoint source found cached).1
          exact different (owner.symm.trans original)
        have entry := registered other holder held remains
        have opened := (sound.opened other holder scheduled.found scheduled.connected).1
        rw [number] at opened entry
        dsimp only at entry
        rw [kernel, updateInWaitSetHandle, Epoll.control_delete opened] at entry
        dsimp only at entry
        rw [Function.update_self] at entry
        contradiction
  | _ => exact absurd trivial stale

/-- Along every run, each connected and scheduled channel stays registered exactly as
long as no removal hits a number that another such channel holds. -/
theorem registered_iff (openNumbers : List Int) (actions : List (Action Id)) :
    Always step Registered (initial openNumbers) actions ↔
      Respects step RemovesOwnNumber (initial openNumbers) actions :=
  always_iff_respects (fun _ => True) Sound
    (fun _ _ _ sound _ own enabled => step_sound sound own enabled)
    (fun _ sound => sound.registered)
    (fun _ _ _ sound stale enabled => stale_removal sound stale enabled)
    (initial_sound openNumbers) fun _ _ => trivial

/-- Channel 1 gets the number of the terminated channel 0, which is unscheduled last. -/
def reuseRun : List (Action Nat) :=
  [.create 0, .schedule 0, .terminate 0, .create 1, .schedule 1, .unschedule 0]

theorem reused_number_unregistered :
    (∃ final : State Nat, run step (initial [0, 1, 2, 3]) reuseRun = some final ∧
      ∃ endpoint source, Scheduled final 1 endpoint source ∧ endpoint.channel.handle = 4 ∧
        final.waitSet.kernel.interest 4 = none) ∧
    ¬ Always step Registered (initial [0, 1, 2, 3] : State Nat) reuseRun := by
  have reached : ∃ final : State Nat, run step (initial [0, 1, 2, 3]) reuseRun = some final ∧
      ∃ endpoint source, Scheduled final 1 endpoint source ∧ endpoint.channel.handle = 4 ∧
        final.waitSet.kernel.interest 4 = none := by
    refine ⟨_, rfl, ?_⟩
    refine ⟨{ channel := Channel.adopted 4, source := some { channel := 1, readHandle := 4 } },
      { channel := 1, readHandle := 4 }, ⟨rfl, rfl, rfl, ?_⟩, rfl, rfl⟩
    decide
  refine ⟨reached, fun always => ?_⟩
  obtain ⟨final, performed, endpoint, source, scheduled, number, gone⟩ := reached
  have entry := always.final performed 1 endpoint source scheduled
  rw [number, gone] at entry
  contradiction

end CoreLib.ChannelRegistration
