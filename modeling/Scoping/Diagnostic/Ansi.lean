import Scoping.Diagnostic.Rendering

namespace Scoping

/-- The numbers with which a terminal sequence turns a style on. -/
def Style.ansi : Style → String
  | bold => "1"
  | boldRed => "1;91"
  | boldYellow => "1;33"
  | boldGreen => "1;92"
  | boldCyan => "1;96"

def Painter.ansi : Painter :=
  ⟨fun style text => "\x1b[" ++ style.ansi ++ "m" ++ text ++ "\x1b[0m"⟩

end Scoping
