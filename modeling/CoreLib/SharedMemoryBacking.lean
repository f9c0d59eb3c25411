/-
SharedMemory_CreateBackingIfNecessary.

The name space and the descriptor table change only through shm_open and shm_unlink.
shm_open is called with O_CREAT | O_EXCL, which is atomic: it fails with EEXIST on a
name that exists, and otherwise makes a new object.  Any call may also be refused
with another error.  The loop keeps the name of its last attempt, which is the name
of the handle it leaves with.
-/

import CoreLib.Foundation.HandleTable
import CoreLib.Foundation.NameSpace
import CoreLib.System

set_option autoImplicit false

namespace CoreLib

open Foundation

def EEXIST : Errno := .other 17

namespace SharedMemory

/-- The names and the open descriptors; every object that either of them refers to
is older than the next one. -/
structure SharedSpace where
  names : String → Option OpenFile
  table : HandleTable OpenFile
  nextObject : OpenFile
  namesOlder : ∀ name object, names name = some object → object < nextObject
  tableOlder : ∀ number object, table.find number = some object → object < nextObject

/-- An errno with which shm_open may be refused at any time. -/
abbrev OtherErrno := { errno : Errno // errno ≠ EEXIST }

/-- What successive calls draw and meet.  `errno` is the value that a successful
call leaves behind. -/
structure Environment where
  rand : Nat → Nat
  refusal : Nat → Option OtherErrno
  errno : Nat → Errno

def RAND_MAX : Nat := 2147483647

def SharedMemory_RandomFileName (rand : Nat) : String :=
  "/CoreLib_SharedMemory" ++ toString (rand % RAND_MAX)

def SharedMemoryTempHandleMaxRetries : Nat := 25

/-! ### The system calls -/

def shmOpen (space : SharedSpace) (name : String) (refusal : Option OtherErrno) (errno : Errno) :
    SysResult × SharedSpace :=
  match refusal with
  | some other => (.failure other, space)
  | none =>
      match claims : claim space.names name space.nextObject with
      | none => (.failure EEXIST, space)
      | some names =>
          ({ rc := space.table.next, errno := errno },
            { names := names
              table := space.table.insert space.nextObject
              nextObject := space.nextObject + 1
              namesOlder := by
                intro other object found
                rcases claim_entries claims found with newest | earlier
                · exact Nat.lt_succ_of_le (Nat.le_of_eq newest)
                · exact Nat.lt_succ_of_lt (space.namesOlder other object earlier)
              tableOlder := by
                intro number object found
                rw [HandleTable.insert_find] at found
                by_cases same : number = space.table.next
                · rw [same, Function.update_self] at found
                  cases found
                  exact Nat.lt_succ_self _
                · rw [Function.update_of_ne same] at found
                  exact Nat.lt_succ_of_lt (space.tableOlder number object found) })

def shmUnlink (space : SharedSpace) (name : String) : Int × SharedSpace :=
  match releases : release space.names name with
  | none => (-1, space)
  | some names =>
      (0, { space with
        names := names
        namesOlder := fun other object found =>
          space.namesOlder other object (release_entries releases found) })

/-! ### The function -/

inductive BackingCall where
  | shmOpen (name : String) (result : SysResult)
  | shmUnlink (name : String) (rc : Int)
deriving DecidableEq, Repr

/-- The locals of the function, with the calls it has made. -/
structure Backing where
  space : SharedSpace
  newHandle : Int
  tempFile : String
  tries : Nat
  calls : List BackingCall

def backingLoop (env : Environment) : Nat → Backing → Backing
  | 0, state => state
  | remaining + 1, state =>
      let (result, space) :=
        shmOpen state.space state.tempFile (env.refusal state.tries) (env.errno state.tries)
      let opened :=
        { state with
          space := space
          newHandle := result.rc
          tries := state.tries + 1
          calls := state.calls ++ [.shmOpen state.tempFile result] }
      if result.rc = -1 ∧ result.errno = EEXIST then
        backingLoop env remaining
          { opened with tempFile := SharedMemory_RandomFileName (env.rand opened.tries) }
      else opened

def Backing.enter (env : Environment) (space : SharedSpace) : Backing :=
  { space := space
    newHandle := -1
    tempFile := SharedMemory_RandomFileName (env.rand 0)
    tries := 0
    calls := [] }

/-- The handle, the calls made and the space they leave, after the loop; absent when
the CL_CHECK of shm_unlink fails. -/
def Backing.leave (state : Backing) : Option (Int × List BackingCall × SharedSpace) :=
  if state.newHandle ≠ -1 then
    let (rc, final) := shmUnlink state.space state.tempFile
    if rc ≠ 0 then none
    else some (state.newHandle, state.calls ++ [.shmUnlink state.tempFile rc], final)
  else some (state.newHandle, state.calls, state.space)

def SharedMemory_CreateBackingIfNecessary (env : Environment) (space : SharedSpace)
    (handle : Int) : Option (Int × List BackingCall × SharedSpace) :=
  if handle ≠ -1 then some (handle, [], space)
  else (backingLoop env SharedMemoryTempHandleMaxRetries (.enter env space)).leave

/-! ### Outcomes of one attempt -/

/-- The three outcomes of shm_open, told apart by what the caller tests. -/
inductive Attempt (space : SharedSpace) (name : String) : SysResult → SharedSpace → Prop where
  | refused (errno : Errno) (other : errno ≠ EEXIST) : Attempt space name (.failure errno) space
  | collided (taken : (space.names name).isSome = true) :
      Attempt space name (.failure EEXIST) space
  | opened (result : SysResult) (next : SharedSpace) (handle : result.rc = space.table.next)
      (claims : claim space.names name space.nextObject = some next.names)
      (table : next.table = space.table.insert space.nextObject) : Attempt space name result next

theorem shmOpen_cases (space : SharedSpace) (name : String) (refusal : Option OtherErrno)
    (errno : Errno) :
    Attempt space name (shmOpen space name refusal errno).1 (shmOpen space name refusal errno).2 := by
  unfold shmOpen
  cases refusal with
  | some other => exact .refused other.val other.property
  | none =>
      simp only
      split
      · rename_i failed
        apply Attempt.collided
        cases held : space.names name with
        | some object => rfl
        | none =>
            rw [claim_of_free held] at failed
            contradiction
      · rename_i names claims
        exact .opened _ _ rfl claims rfl

def Collision (space : SharedSpace) (call : BackingCall) : Prop :=
  ∃ name, (space.names name).isSome = true ∧ call = .shmOpen name (.failure EEXIST)

/-- How the loop can end, when it begins with `budget` attempts. -/
inductive Search (space : SharedSpace) (budget : Nat) (final : Backing) : Prop where
  | exhausted (same : final.space = space) (handle : final.newHandle = -1)
      (count : final.calls.length = budget) (collided : ∀ call ∈ final.calls, Collision space call)
  | refused (same : final.space = space) (handle : final.newHandle = -1)
      (count : final.calls.length ≤ budget) (before : List BackingCall) (errno : Errno)
      (other : errno ≠ EEXIST) (collided : ∀ call ∈ before, Collision space call)
      (calls : final.calls = before ++ [.shmOpen final.tempFile (.failure errno)])
  | opened (handle : final.newHandle = space.table.next)
      (claims : claim space.names final.tempFile space.nextObject = some final.space.names)
      (table : final.space.table = space.table.insert space.nextObject)
      (count : final.calls.length ≤ budget) (before : List BackingCall) (result : SysResult)
      (collided : ∀ call ∈ before, Collision space call)
      (calls : final.calls = before ++ [.shmOpen final.tempFile result])

/-! ### The loop -/

private theorem collided_append {space : SharedSpace} {calls : List BackingCall} {name : String}
    (collided : ∀ call ∈ calls, Collision space call)
    (taken : (space.names name).isSome = true) :
    ∀ call ∈ calls ++ [.shmOpen name (.failure EEXIST)], Collision space call := by
  intro call member
  rcases List.mem_append.mp member with earlier | newest
  · exact collided call earlier
  · exact ⟨name, taken, List.mem_singleton.mp newest⟩

/-- Until its last attempt the loop has met only names that exist and changed nothing. -/
theorem backingLoop_search (env : Environment) {space : SharedSpace} {budget : Nat}
    (remaining : Nat) (state : Backing) (same : state.space = space)
    (handle : state.newHandle = -1) (collided : ∀ call ∈ state.calls, Collision space call)
    (count : state.calls.length + remaining = budget) :
    Search space budget (backingLoop env remaining state) := by
  induction remaining generalizing state with
  | zero => exact .exhausted same handle count collided
  | succ remaining ih =>
      have outcome := shmOpen_cases state.space state.tempFile (env.refusal state.tries)
        (env.errno state.tries)
      have length : (state.calls.length + 1) + remaining = budget := by omega
      unfold backingLoop
      rw [same] at outcome ⊢
      cases attempt : shmOpen space state.tempFile (env.refusal state.tries)
        (env.errno state.tries) with
      | mk result next =>
          rw [attempt] at outcome
          simp only at outcome ⊢
          cases outcome with
          | refused errno other =>
              rw [if_neg fun retry => other retry.2]
              refine .refused rfl rfl ?_ state.calls errno other collided rfl
              simp only [List.length_append, List.length_singleton]
              omega
          | collided taken =>
              rw [if_pos ⟨rfl, rfl⟩]
              apply ih
              · rfl
              · rfl
              · exact collided_append collided taken
              · rw [List.length_append]
                exact length
          | opened _ _ number claims table =>
              have natural := space.table.next_nonneg
              rw [if_neg (by omega)]
              refine .opened number claims table ?_ state.calls result collided rfl
              simp only [List.length_append, List.length_singleton]
              omega

/-- The name of the attempt with the given index, if the loop gets there. -/
def Environment.candidate (env : Environment) (index : Nat) : String :=
  SharedMemory_RandomFileName (env.rand index)

/-- The attempt is not refused and its name is free, after attempts on names that exist. -/
structure Finds (env : Environment) (space : SharedSpace) (first index : Nat) : Prop where
  granted : env.refusal index = none
  free : space.names (env.candidate index) = none
  before : ∀ earlier, first ≤ earlier → earlier < index →
    env.refusal earlier = none ∧ (space.names (env.candidate earlier)).isSome = true

namespace Finds

variable {env : Environment} {space : SharedSpace} {first index : Nat}

theorem not_refused (finds : Finds env space first index) (low : first ≤ index) :
    env.refusal first = none := by
  rcases Nat.eq_or_lt_of_le low with here | later
  · rw [here]
    exact finds.granted
  · exact (finds.before first (Nat.le_refl _) later).1

/-- A name that exists is not the one that is found. -/
theorem later (finds : Finds env space first index) (low : first ≤ index)
    (taken : (space.names (env.candidate first)).isSome = true) : first < index := by
  rcases Nat.eq_or_lt_of_le low with here | later
  · rw [here, finds.free] at taken
    contradiction
  · exact later

theorem tail (finds : Finds env space first index) : Finds env space (first + 1) index :=
  { finds with
    before := fun earlier after => finds.before earlier (Nat.le_of_succ_le after) }

theorem extend (finds : Finds env space (first + 1) index) (granted : env.refusal first = none)
    (taken : (space.names (env.candidate first)).isSome = true) : Finds env space first index :=
  { finds with
    before := by
      intro earlier after before
      rcases Nat.eq_or_lt_of_le after with here | later
      · rw [← here]
        exact ⟨granted, taken⟩
      · exact finds.before earlier later before }

end Finds

theorem shmOpen_refused (space : SharedSpace) (name : String) (other : OtherErrno) (errno : Errno) :
    shmOpen space name (some other) errno = (.failure other, space) := rfl

theorem shmOpen_taken {space : SharedSpace} {name : String}
    (taken : (space.names name).isSome = true) (errno : Errno) :
    shmOpen space name none errno = (.failure EEXIST, space) := by
  obtain ⟨object, held⟩ := Option.isSome_iff_exists.mp taken
  unfold shmOpen
  simp only
  split
  · rfl
  · rename_i names claims
    rw [claim_of_taken held] at claims
    contradiction

theorem shmOpen_free {space : SharedSpace} {name : String} (free : space.names name = none)
    (errno : Errno) : (shmOpen space name none errno).1.rc = space.table.next := by
  unfold shmOpen
  simp only
  split
  · rename_i failed
    rw [claim_of_free free] at failed
    contradiction
  · rfl

/-- The loop leaves with a handle exactly when one of its attempts finds a free name. -/
theorem backingLoop_finds (env : Environment) {space : SharedSpace} (remaining : Nat)
    (state : Backing) (same : state.space = space) (handle : state.newHandle = -1)
    (file : state.tempFile = env.candidate state.tries) :
    (backingLoop env remaining state).newHandle ≠ -1 ↔
      ∃ index, state.tries ≤ index ∧ index < state.tries + remaining ∧
        Finds env space state.tries index := by
  induction remaining generalizing state with
  | zero =>
      constructor
      · intro found
        exact absurd handle found
      · rintro ⟨index, low, high, _⟩
        omega
  | succ remaining ih =>
      unfold backingLoop
      simp only
      rw [same, file]
      cases refusal : env.refusal state.tries with
      | some other =>
          rw [shmOpen_refused, if_neg fun retry => other.property retry.2]
          constructor
          · intro found
            exact absurd rfl found
          · rintro ⟨index, low, _, finds⟩
            rw [finds.not_refused low] at refusal
            contradiction
      | none =>
          by_cases taken : (space.names (env.candidate state.tries)).isSome = true
          · rw [shmOpen_taken taken, if_pos ⟨rfl, rfl⟩]
            refine (ih _ rfl rfl rfl).trans ?_
            constructor
            · rintro ⟨index, low, high, finds⟩
              exact ⟨index, Nat.le_of_succ_le low, by simp only at high; omega,
                finds.extend refusal taken⟩
            · rintro ⟨index, low, high, finds⟩
              exact ⟨index, finds.later low taken, by simp only; omega, finds.tail⟩
          · have free := Option.not_isSome_iff_eq_none.mp taken
            have number := shmOpen_free free (env.errno state.tries)
            have natural := space.table.next_nonneg
            rw [if_neg (by omega)]
            constructor
            · intro _
              refine ⟨state.tries, Nat.le_refl _, by omega, refusal, free, ?_⟩
              intro earlier after before
              omega
            · intro _
              change (shmOpen space (env.candidate state.tries) none
                (env.errno state.tries)).1.rc ≠ -1
              omega

/-- Some attempt within the limit finds a free name. -/
def FindsName (env : Environment) (space : SharedSpace) : Prop :=
  ∃ index, index < SharedMemoryTempHandleMaxRetries ∧ Finds env space 0 index

/-! ### The name space afterwards -/

/-- The unlink after the loop gives back the name that the loop has claimed. -/
private theorem shmUnlink_claimed {space next : SharedSpace} {name : String} {object : OpenFile}
    (claims : claim space.names name object = some next.names) :
    ∃ final, shmUnlink next name = (0, final) ∧ final.names = space.names ∧
      final.table = next.table := by
  have gives := release_claim claims
  unfold shmUnlink
  split
  · rename_i failed
    rw [gives] at failed
    contradiction
  · rename_i names releases
    rw [gives] at releases
    cases releases
    exact ⟨_, rfl, rfl, rfl⟩

def Backing.unlinks (state : Backing) : List BackingCall :=
  if state.newHandle = -1 then [] else [.shmUnlink state.tempFile 0]

theorem leave_of_search {space : SharedSpace} {budget : Nat} {state : Backing}
    (search : Search space budget state) :
    ∃ final, state.leave = some (state.newHandle, state.calls ++ state.unlinks, final) ∧
      final.names = space.names ∧ final.table = state.space.table := by
  have kept : state.newHandle = -1 → state.space = space →
      ∃ final, state.leave = some (state.newHandle, state.calls ++ state.unlinks, final) ∧
        final.names = space.names ∧ final.table = state.space.table := by
    intro handle same
    refine ⟨state.space, ?_, by rw [same], rfl⟩
    simp [Backing.leave, Backing.unlinks, handle]
  cases search with
  | exhausted same handle count collided => exact kept handle same
  | refused same handle count before errno other collided calls => exact kept handle same
  | opened handle claims table count before result collided calls =>
      obtain ⟨final, unlinked, names, table'⟩ := shmUnlink_claimed claims
      have natural := space.table.next_nonneg
      have valid : state.newHandle ≠ -1 := by omega
      refine ⟨final, ?_, names, table'⟩
      simp [Backing.leave, Backing.unlinks, valid, unlinked]

/-- The function returns what its loop found, with the names as they were. -/
theorem backing_returns (env : Environment) (space : SharedSpace) :
    ∃ state final, Search space SharedMemoryTempHandleMaxRetries state ∧
      (state.newHandle ≠ -1 ↔ FindsName env space) ∧
      SharedMemory_CreateBackingIfNecessary env space (-1) =
        some (state.newHandle, state.calls ++ state.unlinks, final) ∧
      final.names = space.names ∧ final.table = state.space.table := by
  have search := backingLoop_search env SharedMemoryTempHandleMaxRetries (.enter env space) rfl
    rfl nofun (Nat.zero_add _)
  have finds := backingLoop_finds env SharedMemoryTempHandleMaxRetries (.enter env space) rfl
    rfl rfl
  obtain ⟨final, left, names, table⟩ := leave_of_search search
  refine ⟨_, final, search, finds.trans ?_, ?_, names, table⟩
  · simp [FindsName, Backing.enter]
  · rw [SharedMemory_CreateBackingIfNecessary, if_neg (by simp), left]

/-- A handle exactly when a name is found, and then a descriptor of a new object. -/
theorem backing_acquires (env : Environment) (space : SharedSpace) :
    ∃ handle calls final,
      SharedMemory_CreateBackingIfNecessary env space (-1) = some (handle, calls, final) ∧
      ((FindsName env space ∧ handle = space.table.next ∧
          final.table = space.table.insert space.nextObject) ∨
        (¬ FindsName env space ∧ handle = -1 ∧ final.table = space.table)) := by
  obtain ⟨state, final, search, finds, returned, _, table⟩ := backing_returns env space
  refine ⟨_, _, final, returned, ?_⟩
  cases search with
  | exhausted same handle count collided =>
      exact Or.inr ⟨fun found => finds.mpr found handle, handle, by rw [table, same]⟩
  | refused same handle count before errno other collided calls =>
      exact Or.inr ⟨fun found => finds.mpr found handle, handle, by rw [table, same]⟩
  | opened handle claims inserted count before result collided calls =>
      have natural := space.table.next_nonneg
      have valid : state.newHandle ≠ -1 := by omega
      exact Or.inl ⟨finds.mp valid, handle, by rw [table, inserted]⟩

theorem backing_of_name {env : Environment} {space : SharedSpace} (finds : FindsName env space) :
    ∃ calls final,
      SharedMemory_CreateBackingIfNecessary env space (-1) =
        some (space.table.next, calls, final) ∧
      space.table.next ≠ -1 ∧ final.table = space.table.insert space.nextObject := by
  obtain ⟨handle, calls, final, returned, ⟨_, number, table⟩ | ⟨unfound, _⟩⟩ :=
    backing_acquires env space
  · rw [number] at returned
    have natural := space.table.next_nonneg
    exact ⟨calls, final, returned, by omega, table⟩
  · contradiction

theorem backing_without_name {env : Environment} {space : SharedSpace}
    (unfound : ¬ FindsName env space) :
    ∃ calls final,
      SharedMemory_CreateBackingIfNecessary env space (-1) = some (-1, calls, final) := by
  obtain ⟨handle, calls, final, returned, ⟨finds, _⟩ | ⟨_, number, _⟩⟩ :=
    backing_acquires env space
  · contradiction
  · rw [number] at returned
    exact ⟨calls, final, returned⟩

def BackingCall.attempted : BackingCall → Option String
  | .shmOpen name _ => some name
  | .shmUnlink _ _ => none

def attempts (calls : List BackingCall) : List String := calls.filterMap BackingCall.attempted

def BackingCall.touched : BackingCall → Option String
  | .shmOpen name result => if result.rc = -1 then none else some name
  | .shmUnlink name _ => some name

/-- A handle to a new object that nothing else refers to. -/
structure FreshHandle (space final : SharedSpace) (handle : Int) : Prop where
  valid : handle ≠ -1
  unused : space.table.find handle = none
  refers : final.table.find handle = some space.nextObject
  created : (∀ name, space.names name ≠ some space.nextObject) ∧
    ∀ number, space.table.find number ≠ some space.nextObject
  unnamed : ∀ name, final.names name ≠ some space.nextObject
  alone : ∀ other, other ≠ handle → final.table.find other = space.table.find other ∧
    final.table.find other ≠ some space.nextObject

/-- No handle: the reason is in the calls, and no descriptor was opened. -/
structure NoHandle (space final : SharedSpace) (calls : List BackingCall) (handle : Int) :
    Prop where
  invalid : handle = -1
  table : final.table = space.table
  reason : (∃ name errno, .shmOpen name (.failure errno) ∈ calls ∧ errno ≠ EEXIST) ∨
    ((attempts calls).length = SharedMemoryTempHandleMaxRetries ∧
      ∀ name ∈ attempts calls, (space.names name).isSome = true)

private theorem collision_touches_nothing {space : SharedSpace} {calls : List BackingCall}
    (collided : ∀ call ∈ calls, Collision space call) {call : BackingCall} (member : call ∈ calls)
    {name : String} : call.touched ≠ some name := by
  obtain ⟨_, _, same⟩ := collided call member
  rw [same]
  exact nofun

private theorem attempts_of_collisions {space : SharedSpace} {calls : List BackingCall}
    (collided : ∀ call ∈ calls, Collision space call) :
    (attempts calls).length = calls.length ∧
      ∀ name ∈ attempts calls, (space.names name).isSome = true := by
  induction calls with
  | nil => exact ⟨rfl, nofun⟩
  | cons call rest ih =>
      obtain ⟨name, taken, same⟩ := collided call (List.mem_cons_self ..)
      obtain ⟨length, all⟩ := ih fun other member => collided other (List.mem_cons_of_mem _ member)
      subst same
      constructor
      · simpa [attempts, BackingCall.attempted] using length
      · intro other member
        rcases List.mem_cons.mp member with here | later
        · rw [here]
          exact taken
        · exact all other later

private theorem attempts_unlinks (state : Backing) :
    attempts (state.calls ++ state.unlinks) = attempts state.calls := by
  by_cases handle : state.newHandle = -1
  · simp [Backing.unlinks, handle]
  · simp [Backing.unlinks, handle, attempts, BackingCall.attempted]

/-- Whatever the search touches is the name it has claimed. -/
private theorem search_touches_free {space : SharedSpace} {budget : Nat} {state : Backing}
    (search : Search space budget state) :
    ∀ call ∈ state.calls ++ state.unlinks, ∀ name, call.touched = some name →
      space.names name = none := by
  intro call member name touched
  cases search with
  | exhausted same handle count collided =>
      rw [Backing.unlinks, if_pos handle, List.append_nil] at member
      exact absurd touched (collision_touches_nothing collided member)
  | refused same handle count before errno other collided calls =>
      rw [Backing.unlinks, if_pos handle, List.append_nil, calls] at member
      rcases List.mem_append.mp member with earlier | newest
      · exact absurd touched (collision_touches_nothing collided earlier)
      · rw [List.mem_singleton.mp newest] at touched
        contradiction
  | opened handle claims table count before result collided calls =>
      have natural := space.table.next_nonneg
      have valid : state.newHandle ≠ -1 := by omega
      have absent := (claim_eq_some claims).1
      rw [Backing.unlinks, if_neg valid, calls, List.append_assoc] at member
      rcases List.mem_append.mp member with earlier | newest
      · exact absurd touched (collision_touches_nothing collided earlier)
      · have claimed : name = state.tempFile := by
          rcases List.mem_cons.mp newest with attempt | unlink
          · rw [attempt, BackingCall.touched] at touched
            split at touched
            · contradiction
            · exact (Option.some.inj touched).symm
          · rw [List.mem_singleton.mp unlink] at touched
            exact (Option.some.inj touched).symm
        rw [claimed]
        exact absent

private theorem search_bounded {space : SharedSpace} {budget : Nat} {state : Backing}
    (search : Search space budget state) : (attempts state.calls).length ≤ budget := by
  have fewer : (attempts state.calls).length ≤ state.calls.length := List.length_filterMap_le _ _
  cases search with
  | exhausted same handle count collided => omega
  | refused same handle count before errno other collided calls => omega
  | opened handle claims table count before result collided calls => omega

private theorem freshHandle_of_opened {space next final : SharedSpace}
    (table : next.table = space.table.insert space.nextObject) (names : final.names = space.names)
    (kept : final.table = next.table) : FreshHandle space final space.table.next := by
  have find : final.table.find =
      Function.update space.table.find space.table.next (some space.nextObject) := by
    rw [kept, table, HandleTable.insert_find]
  have unnamed : ∀ name, space.names name ≠ some space.nextObject := by
    intro name found
    exact Nat.lt_irrefl _ (space.namesOlder name _ found)
  have unheld : ∀ number, space.table.find number ≠ some space.nextObject := by
    intro number found
    exact Nat.lt_irrefl _ (space.tableOlder number _ found)
  exact
    { valid := by
        have natural := space.table.next_nonneg
        omega
      unused := space.table.next_free
      refers := by rw [find, Function.update_self]
      created := ⟨unnamed, unheld⟩
      unnamed := by
        rw [names]
        exact unnamed
      alone := by
        intro other different
        rw [find, Function.update_of_ne different]
        exact ⟨rfl, unheld other⟩ }

/-- For every name space, every sequence of drawn names and every pattern of refusals:
the function returns after at most the given number of attempts, opens and unlinks only
names that did not exist, leaves the names as they were, and returns a handle that
nothing else shares, or -1 for one of the two reasons. -/
theorem backing_leaves_names (env : Environment) (space : SharedSpace) :
    ∃ handle calls final,
      SharedMemory_CreateBackingIfNecessary env space (-1) = some (handle, calls, final) ∧
      (attempts calls).length ≤ SharedMemoryTempHandleMaxRetries ∧
      (∀ call ∈ calls, ∀ name, call.touched = some name → space.names name = none) ∧
      final.names = space.names ∧
      (FreshHandle space final handle ∨ NoHandle space final calls handle) := by
  obtain ⟨state, final, search, _, returned, names, table⟩ := backing_returns env space
  refine ⟨_, _, final, returned, ?_, search_touches_free search, names, ?_⟩
  · rw [attempts_unlinks]
    exact search_bounded search
  · cases search with
    | exhausted same handle count collided =>
        obtain ⟨length, taken⟩ := attempts_of_collisions collided
        refine Or.inr ⟨handle, by rw [table, same], Or.inr ?_⟩
        rw [attempts_unlinks, length, count]
        exact ⟨rfl, taken⟩
    | refused same handle count before errno other collided calls =>
        refine Or.inr ⟨handle, by rw [table, same], Or.inl ⟨state.tempFile, errno, ?_, other⟩⟩
        rw [calls]
        simp
    | opened handle claims inserted count before result collided calls =>
        left
        rw [handle]
        exact freshHandle_of_opened inserted names table

end SharedMemory

end CoreLib
