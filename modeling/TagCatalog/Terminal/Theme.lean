import TagCatalog.Number.Reading

/-!
Colors of a terminal.

* `Theme.ofEnvironment`: dark or light, as asked for, else as the terminal tells of its background.
* `Theme.color`: a hue in a theme.
* `Style.paint`: a text in a hue, or as it is where colors are not wanted.
-/

namespace TagCatalog

/-- The values that the surroundings of the program give to names. -/
abbrev Environment := String → Option String

namespace Terminal

/-- Whether colors stand before a dark or a light background. -/
inductive Theme
  | dark
  | light
  deriving Repr, DecidableEq, Inhabited

namespace Theme

/-- The word for a theme. -/
def name : Theme → String
  | dark => "dark"
  | light => "light"

/-- A character in lower case, as far as words of ASCII are concerned: beside its own letters, the
kelvin sign is a letter k. -/
def lower (c : Char) : Char := if c = '\u212a' then 'k' else c.toLower

/-- The theme that a word asks for, in whatever case. -/
def ofWord? (s : String) : Option Theme :=
  let word := String.ofList (s.toList.map lower)
  if word = "light" ∨ word = "l" then some light
  else if word = "dark" ∨ word = "d" then some dark
  else none

/-- The theme for a foreground and a background, which stands last: from 7 on backgrounds are light,
but for 8. -/
def ofColors? (s : String) : Option Theme := do
  let n ← Number.parse? 10 256 ((s.splitOn ";").getLastD "")
  if 7 ≤ n ∧ n ≠ 8 then some light else none

/-- The theme that the surroundings ask for. -/
def ofEnvironment (env : Environment) : Theme :=
  ((env "TAGSTORM_THEME").bind ofWord?).or ((env "COLORFGBG").bind ofColors?) |>.getD dark

end Theme

/-- A hue. -/
inductive Hue
  | red
  | green
  | yellow
  | blue
  | magenta
  | cyan
  | gray
  | brightCyan
  deriving Repr, DecidableEq

namespace Hue

/-- All hues. -/
def all : List Hue := [red, green, yellow, blue, magenta, cyan, gray, brightCyan]

/-- The name of a hue. -/
def name : Hue → String
  | red => "RED"
  | green => "GREEN"
  | yellow => "YELLOW"
  | blue => "BLUE"
  | magenta => "MAGENTA"
  | cyan => "CYAN"
  | gray => "GRAY"
  | brightCyan => "BRIGHT_CYAN"

end Hue

/-- The red, green and blue of a hue in a theme. -/
def Theme.components : Theme → Hue → Nat × Nat × Nat
  | .dark, .red => (224, 108, 117)
  | .dark, .green => (152, 195, 121)
  | .dark, .yellow => (229, 192, 123)
  | .dark, .blue => (97, 175, 239)
  | .dark, .magenta => (198, 120, 221)
  | .dark, .cyan => (86, 182, 194)
  | .dark, .gray => (92, 99, 112)
  | .dark, .brightCyan => (102, 217, 239)
  | .light, .red => (228, 86, 73)
  | .light, .green => (80, 161, 79)
  | .light, .yellow => (193, 132, 1)
  | .light, .blue => (64, 120, 242)
  | .light, .magenta => (166, 38, 164)
  | .light, .cyan => (1, 132, 188)
  | .light, .gray => (160, 161, 167)
  | .light, .brightCyan => (1, 112, 158)

/-- The sequence that switches to a hue. -/
def Theme.color (t : Theme) (h : Hue) : String :=
  let (r, g, b) := t.components h
  "\x1b[38;2;" ++ toString r ++ ";" ++ toString g ++ ";" ++ toString b ++ "m"

/-- The weight of a text. -/
inductive Weight
  | bold
  | dim
  deriving Repr, DecidableEq

/-- The sequence that switches to a weight. -/
def Weight.sequence : Weight → String
  | bold => "\x1b[1m"
  | dim => "\x1b[2m"

/-- The sequence that switches back. -/
def reset : String := "\x1b[0m"

/-- How texts are shown. -/
structure Style where
  theme : Theme
  /-- Whether colors are shown. -/
  colors : Bool
  deriving Repr, DecidableEq

namespace Style

/-- The style for output that goes to a terminal or not. Colors are not shown elsewhere, nor where
the surroundings ask for none. -/
def ofEnvironment (env : Environment) (terminal : Bool) : Style :=
  ⟨.ofEnvironment env, terminal && (env "NO_COLOR").isNone⟩

/-- A text in a hue and a weight. -/
def paint (s : Style) (h : Hue) (w : Weight) (text : String) : String :=
  if s.colors then w.sequence ++ s.theme.color h ++ text ++ reset else text

/-- A frame in a hue. -/
def stroke (s : Style) (h : Hue) (text : String) : String :=
  if s.colors then s.theme.color h ++ text ++ reset else text

end Style

end Terminal

end TagCatalog
