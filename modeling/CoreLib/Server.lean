/-
The constructor of Server.

bind and unlink act on the file system, of which the constructor sees only whether its
name exists.  The variable that bind assigns inside the loop hides the one that is
tested behind it, so the loop is left by a successful bind or not at all.
-/

import CoreLib.Foundation.Loop
import CoreLib.System

set_option autoImplicit false

namespace CoreLib

open Foundation

def EADDRINUSE : Errno := .other 98

structure Server where
  name : List UInt8
  socketHandle : Int
  listening : Bool
deriving DecidableEq, Repr

namespace Server

/-- What the calls for one name do to the file system: bind fails with EADDRINUSE exactly
while the name exists, and unlink removes it. -/
structure Environment (Files : Type) where
  present : Files → Bool
  bind : Files → SysResult
  bound : Files → Files
  unlinked : Files → Files
  listen : Files → SysResult
  returns : ∀ files, (bind files).rc = 0 ∨ (bind files).rc = -1
  inUse : ∀ files,
    (bind files).rc = -1 ∧ (bind files).errno = EADDRINUSE ↔ present files = true
  removes : ∀ files, present files = true → present (unlinked files) = false

variable {Files : Type}

def Environment.unlink (env : Environment Files) (files : Files) : Int × Files :=
  if env.present files then (0, env.unlinked files) else (-1, files)

/-- One turn of the bind loop; it leaves without a result when a CL_CHECK fails. -/
def bindTurn (env : Environment Files) (files : Files) : Turn Files (Option Files) :=
  let result := env.bind files
  if result.rc = 0 then .leave (some (env.bound files))
  else if result.rc = -1 ∧ result.errno = EADDRINUSE then
    let (rc, left) := env.unlink files
    if rc ≠ 0 then .leave none else .again left
  else .again files

/-- How the constructor ends: an assertion on its argument or a CL_CHECK fails, it
reaches one of its error branches, or it runs to the end. -/
inductive Constructed (Files : Type) where
  | aborted
  | failed (server : Server) (files : Files)
  | finished (server : Server) (files : Files)

def initial (name : List UInt8) : Server :=
  { name := name
    socketHandle := -1
    listening := false }

/-- `Server::Server`, with the result of socket and a number of turns for the loop. -/
def construct (env : Environment Files) (turns : Nat) (name : List UInt8) (socketHandle : Int)
    (files : Files) : Option (Constructed Files) :=
  if socketHandle = -1 then some (.failed (initial name) files)
  else if 96 < name.length then some .aborted
  else
    -- the outer variable; the loop assigns to another one of this name
    let result : Int := 0
    match iterate (bindTurn env) turns files with
    | none => none
    | some none => some .aborted
    | some (some files) =>
        if result = -1 then some (.failed (initial name) files)
        else
          let result := (env.listen files).rc
          if result = -1 then some (.failed (initial name) files)
          else some (.finished
            { name := name
              socketHandle := socketHandle
              listening := true } files)

/-! ### The bind loop -/

/-- The state in which the name does not exist any more. -/
def Environment.cleared (env : Environment Files) (files : Files) : Files :=
  if env.present files then env.unlinked files else files

theorem cleared_absent (env : Environment Files) (files : Files) :
    env.present (env.cleared files) = false := by
  unfold Environment.cleared
  cases present : env.present files with
  | false => simpa using present
  | true => simpa using env.removes files present

theorem bindTurn_present {env : Environment Files} {files : Files}
    (present : env.present files = true) :
    bindTurn env files = .again (env.unlinked files) := by
  have inUse := (env.inUse files).mpr present
  simp [bindTurn, Environment.unlink, inUse.1, inUse.2, present]

theorem bindTurn_bound {env : Environment Files} {files : Files}
    (bound : (env.bind files).rc = 0) :
    bindTurn env files = .leave (some (env.bound files)) := by
  simp [bindTurn, bound]

/-- Another errno than EADDRINUSE changes nothing and is tried again. -/
theorem bindTurn_refused {env : Environment Files} {files : Files}
    (absent : env.present files = false) (refused : (env.bind files).rc ≠ 0) :
    bindTurn env files = .again files := by
  have other : ¬ ((env.bind files).rc = -1 ∧ (env.bind files).errno = EADDRINUSE) := by
    rw [env.inUse files, absent]
    exact nofun
  simp only [bindTurn, if_neg refused, if_neg other]

/-- The loop gets to the cleared state, and what happens there decides. -/
theorem iterate_cleared (env : Environment Files) (turns : Nat) (files : Files) :
    iterate (bindTurn env) (turns + 1) files = iterate (bindTurn env) turns (env.cleared files) ∨
      env.cleared files = files := by
  cases present : env.present files with
  | false =>
      right
      simp [Environment.cleared, present]
  | true =>
      left
      rw [iterate_again (bindTurn_present present)]
      simp [Environment.cleared, present]

theorem bindLoop_ends {env : Environment Files} {files : Files}
    (bound : (env.bind (env.cleared files)).rc = 0) (turns : Nat) :
    iterate (bindTurn env) (turns + 2) files = some (some (env.bound (env.cleared files))) := by
  rcases iterate_cleared env (turns + 1) files with cleared | same
  · rw [cleared]
    exact iterate_leave (bindTurn_bound bound) turns
  · rw [same] at bound ⊢
    exact iterate_leave (bindTurn_bound bound) (turns + 1)

theorem bindLoop_runs_forever {env : Environment Files} {files : Files}
    (refused : (env.bind (env.cleared files)).rc ≠ 0) (turns : Nat) :
    iterate (bindTurn env) turns files = none := by
  have stuck := iterate_stuck (bindTurn_refused (cleared_absent env files) refused)
  cases turns with
  | zero => rfl
  | succ turns =>
      rcases iterate_cleared env turns files with cleared | same
      · rw [cleared]
        exact stuck turns
      · rw [same] at stuck
        exact stuck (turns + 1)

/-! ### Termination -/

def Constructed.isListening : Constructed Files → Bool
  | .aborted => false
  | .failed server _ => server.listening
  | .finished server _ => server.listening

def Constructed.isFailed : Constructed Files → Bool
  | .aborted => false
  | .failed _ _ => true
  | .finished _ _ => false

/-- The constructor ends, listening if all its calls succeeded, and in its error
handling, without listening, if socket or bind has failed. -/
def EndsProperly (env : Environment Files) (name : List UInt8) (socketHandle : Int)
    (files : Files) : Prop :=
  ∃ turns outcome, construct env turns name socketHandle files = some outcome ∧
    (socketHandle ≠ -1 ∧ (env.bind (env.cleared files)).rc = 0 ∧
      (env.listen (env.bound (env.cleared files))).rc = 0 → outcome.isListening = true) ∧
    (socketHandle = -1 ∨ (env.bind (env.cleared files)).rc = -1 →
      outcome.isFailed = true ∧ outcome.isListening = false)

theorem construct_bound {env : Environment Files} {name : List UInt8} {socketHandle : Int}
    {files : Files} (short : name.length ≤ 96) (opened : socketHandle ≠ -1)
    (bound : (env.bind (env.cleared files)).rc = 0) (turns : Nat) :
    construct env (turns + 2) name socketHandle files = some
      (if (env.listen (env.bound (env.cleared files))).rc = -1 then
        .failed (initial name) (env.bound (env.cleared files))
      else .finished
        { name := name
          socketHandle := socketHandle
          listening := true } (env.bound (env.cleared files))) := by
  simp only [construct, if_neg opened, if_neg (Nat.not_lt.mpr short), bindLoop_ends bound]
  split
  · contradiction
  · split
    · rfl
    · rfl

/-- The constructor ends as it should exactly when it gets no socket, or when bind
succeeds once the name does not exist. -/
theorem ends_properly_iff (env : Environment Files) {name : List UInt8}
    (short : name.length ≤ 96) (socketHandle : Int) (files : Files) :
    EndsProperly env name socketHandle files ↔
      socketHandle = -1 ∨ (env.bind (env.cleared files)).rc = 0 := by
  constructor
  · rintro ⟨turns, outcome, ended, _, _⟩
    by_cases opened : socketHandle = -1
    · exact Or.inl opened
    · right
      apply Classical.byContradiction
      intro refused
      simp [construct, opened, Nat.not_lt.mpr short, bindLoop_runs_forever refused] at ended
  · intro allowed
    by_cases opened : socketHandle = -1
    · refine ⟨0, .failed (initial name) files, if_pos opened, ?_, fun _ => ⟨rfl, rfl⟩⟩
      intro succeeded
      exact absurd opened succeeded.1
    · have bound := allowed.resolve_left opened
      refine ⟨_, _, construct_bound short opened bound 0, ?_, ?_⟩
      · rintro ⟨_, _, listens⟩
        simp [listens, Constructed.isListening]
      · rintro (none_ | refused)
        · contradiction
        · omega

/-- A file system in which nobody may create the name. -/
def forbidden : Environment Unit :=
  { present := fun _ => false
    bind := fun _ => .failure (.other 13)
    bound := id
    unlinked := id
    listen := fun _ => ⟨0, .other 0⟩
    returns := fun _ => Or.inr rfl
    inUse := fun _ => by decide
    removes := nofun }

theorem ends_properly_iff_forbidden :
    ([47, 97] : List UInt8).length ≤ 96 ∧
      (EndsProperly forbidden [47, 97] 3 () ↔
        (3 : Int) = -1 ∨ (forbidden.bind (forbidden.cleared ())).rc = 0) := by
  have short : ([47, 97] : List UInt8).length ≤ 96 := by decide
  exact ⟨short, ends_properly_iff forbidden short 3 ()⟩

/-- With EACCES the loop makes every number of turns. -/
theorem forbidden_never_ends :
    (∀ turns, construct forbidden turns [47, 97] 3 () = none) ∧
      ¬ EndsProperly forbidden [47, 97] 3 () := by
  have endless : ∀ turns, construct forbidden turns [47, 97] 3 () = none := by
    intro turns
    have runs : iterate (bindTurn forbidden) turns () = none :=
      bindLoop_runs_forever (by decide) turns
    simp [construct, runs]
  refine ⟨endless, ?_⟩
  rintro ⟨turns, outcome, ended, _⟩
  rw [endless turns] at ended
  contradiction

end Server

end CoreLib
