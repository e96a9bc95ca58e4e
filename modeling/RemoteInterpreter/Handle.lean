import RemoteInterpreter.Numeral

/-!
# Handles

A handle stands for one variable of the interpreter. It knows its session, the stem
that all variables of the session share, and how many were built before it.
-/

namespace RemoteInterpreter

structure Handle where
  session : Nat
  stem : Text
  number : Nat
  deriving DecidableEq, Repr

namespace Handle

/-- The variable a handle stands for. -/
def name (h : Handle) : Text := h.stem ++ Numeral.write h.number

/-- Handles are compared by session and variable. -/
def same (h k : Handle) : Bool := h.session == k.session && h.name == k.name

/-- A handle is hashed by its variable alone. -/
def hashWith {α : Type} (hash : Text → α) (h : Handle) : α := hash h.name

theorem name_injective {h k : Handle} (hs : h.stem = k.stem) (hn : h.name = k.name) :
    h.number = k.number := by
  have : Numeral.write h.number = Numeral.write k.number := by
    simpa [name, hs] using hn
  simpa using congrArg Numeral.value this

end Handle

end RemoteInterpreter
