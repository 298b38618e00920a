import ChartScript.Plot

/-!
# Scripts

A script has four parts: the configuration, lines passed through to the plotting program, the
data block and the plot command.  `Script.text` writes it.
-/

set_option autoImplicit false

namespace ChartScript

/-- The parts of a script. -/
structure Script where
  config : List Text
  backend : List Text
  data : List Text
  plot : Text
  deriving DecidableEq, Repr

namespace Script

/-- The line that ends the data block. -/
def dataEnd : String := "EOD"

/-- The line that starts the data block. -/
def dataStart : String := dataBlockName ++ " << " ++ dataEnd

/-- The entries of a script, in order. -/
def entries (s : Script) : List Text :=
  s.config ++ s.backend ++ [Text.ofString dataStart] ++ s.data ++ [Text.ofString dataEnd, s.plot]

/-- A script as it is written, every entry ended by a line feed. -/
def text (s : Script) : Text := Text.join "\n" s.entries ++ "\n"

end Script
end ChartScript
