/-!
# When colours are shown
-/

namespace Tabular.Terminal

/-- A variable of the environment that is set; zero means no. -/
def isOn (value : Option String) : Bool := value.any (· != "0")

/-- Whether to show colours: they can be forced; otherwise they can be forbidden; otherwise a
terminal shows them unless they are switched off. -/
def showsColours (force forbid on : Option String) (isTerminal : Bool) : Bool :=
  if isOn force then true
  else if forbid.isSome then false
  else on.all (· != "0") && isTerminal

end Tabular.Terminal
