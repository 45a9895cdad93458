import KotlinTypes.Rejection

/-!
# The log

What the library notes while it works, for whoever follows it: `Logged α` is a
value together with the entries that were noted on the way to it, oldest
first. Nothing is ever computed from a log.

A refusal is noted where it concerns a type parameter (`Rejection.report`).
-/

namespace KotlinTypes

/-- **How much an entry matters.** -/
inductive Level where
  /-- A step of a render. -/
  | trace
  /-- A refusal, or a render that was really done. -/
  | debug
  /-- Something that is allowed and hardly meant. -/
  | warn
  deriving DecidableEq

/-- The name of a level in capitals. -/
def Level.name : Level → String
  | .trace => "TRACE"
  | .debug => "DEBUG"
  | .warn => "WARN"

/-- **One entry of a log.** -/
structure LogEntry where
  /-- How much the entry matters. -/
  level : Level
  /-- What it says. -/
  message : String
  deriving DecidableEq

/-- **A value with the log of its making.** -/
structure Logged (α : Type) where
  /-- What was made. -/
  value : α
  /-- What was noted, oldest entry first. -/
  log : List LogEntry
  deriving DecidableEq

namespace Logged

/-- Making nothing notes nothing, and the second of two steps notes after the
first. -/
instance : Monad Logged where
  pure a := ⟨a, []⟩
  bind x f := ⟨(f x.value).value, x.log ++ (f x.value).log⟩

@[simp] theorem value_pure {α : Type} (a : α) : (pure a : Logged α).value = a := rfl

@[simp] theorem log_pure {α : Type} (a : α) : (pure a : Logged α).log = [] := rfl

@[simp] theorem value_bind {α β : Type} (x : Logged α) (f : α → Logged β) :
    (x >>= f).value = (f x.value).value := rfl

@[simp] theorem log_bind {α β : Type} (x : Logged α) (f : α → Logged β) :
    (x >>= f).log = x.log ++ (f x.value).log := rfl

/-- Noting nothing is neutral, and logs are put together in order however the
steps are grouped. -/
instance : LawfulMonad Logged := LawfulMonad.mk' Logged
  (fun x => congrArg (Logged.mk x.value) (List.append_nil x.log))
  (fun _ _ => rfl)
  (fun x f g => congrArg (Logged.mk (g (f x.value).value).value)
    (List.append_assoc x.log (f x.value).log (g (f x.value).value).log))

/-- Notes one entry. -/
def note (level : Level) (message : String) : Logged Unit :=
  ⟨(), [⟨level, message⟩]⟩

end Logged

/-- The type parameter a refusal concerns, if it concerns one. -/
def Rejection.parameter? : Rejection → Option String
  | .notAVariance name _ | .nullableDefinite name | .nonNullDefinite name
  | .boundsOfDefinite name | .alreadyDefinite name | .definiteOfNullable name
  | .definiteOfTop name _ => some name
  | .notAClassName _ | .noTypeArguments _ | .nullableProjection _ | .nullableDynamic
  | .annotatedDynamic => none

/-- **What a refusal notes.** A modifier that is no variance and a breach of
the rules on the definite form are noted; other refusals are left to the
caller. -/
def Rejection.report (r : Rejection) : List LogEntry :=
  match r with
  | .notAVariance name modifier =>
      [⟨.debug, "Rejecting `" ++ modifier.keyword ++ "` as the variance of " ++ name⟩]
  | _ =>
    match r.parameter? with
    | some name => [⟨.debug, "Rejecting copy of type variable " ++ name ++ ": " ++ r.message⟩]
    | none => []

/-- **An attempt with its log**: a success notes nothing, and a refusal notes
its report. -/
def Logged.attempt {α : Type} (outcome : Except Rejection α) : Logged (Except Rejection α) :=
  match outcome with
  | .ok a => ⟨.ok a, []⟩
  | .error r => ⟨.error r, r.report⟩

end KotlinTypes
