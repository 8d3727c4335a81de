import TagCatalog.Number.Rounding
import TagCatalog.Terminal.Theme
import TagCatalog.Text.Column
import TagCatalog.Wire.FieldSet

/-!
Panels: framed rows of a fixed width under headings.

* `Style.row`, `Style.opening`, `Style.divider`, `Style.closing`, `Style.title`: the parts.
* `visibleLength`: the width of a text, of which switches of color are no part.
* `Style.badges`, `Style.status`, `sizeText`: what stands in rows.
-/

namespace TagCatalog.Terminal

/-- The width between the two sides of a frame. -/
def panelWidth : Nat := 80

/-- The number of characters shown of a text that may be inside an escape sequence. Such a sequence
ends with a letter m. -/
def shown : Bool → List Char → Nat
  | _, [] => 0
  | inside, c :: rest =>
    if c = '\x1b' then shown true rest
    else if inside then shown (c ≠ 'm') rest
    else shown false rest + 1

/-- The number of characters shown of a text. -/
def visibleLength (s : String) : Nat := shown false s.toList

/-- A character so many times. -/
def line (c : Char) (n : Nat) : String := "".pushn c n

namespace Style

variable (s : Style)

/-- A row. -/
def row (content : String) : String :=
  s.stroke .gray "│" ++ content ++ Text.blanks (panelWidth - visibleLength content) ++
    s.stroke .gray "│"

/-- A line across with a heading, between the given ends. -/
def heading (left right label : String) : String :=
  let label := "─ " ++ s.paint .cyan .bold label ++ " "
  s.stroke .gray left ++ label ++
    s.stroke .gray (line '─' (panelWidth - visibleLength label) ++ right)

/-- The line above the first rows. -/
def opening (label : String) : String := s.heading "┌" "┐" label

/-- The line between rows and more of them. -/
def divider (label : String) : String := s.heading "├" "┤" label

/-- The line below the last row. -/
def closing : String := s.stroke .gray ("└" ++ line '─' panelWidth ++ "┘")

/-- A title in the middle of a frame of its own. -/
def title (text : String) : List String :=
  let text := s.paint .brightCyan .bold text
  let room := panelWidth - visibleLength text
  [s.stroke .blue ("╔" ++ line '═' panelWidth ++ "╗"),
    s.stroke .blue "║" ++ Text.blanks (room / 2) ++ text ++ Text.blanks (room - room / 2) ++
      s.stroke .blue "║",
    s.stroke .blue ("╚" ++ line '═' panelWidth ++ "╝")]

/-- The badge of a field, lit if the field is there. -/
def badge (present : Bool) (lit unlit : String) (h : Hue) : String :=
  if present then s.paint h .bold lit else s.paint .gray .dim unlit

/-- A badge for each field. -/
def badges (f : Wire.FieldSet) : String :=
  " ".intercalate [s.badge f.ids "[IDS]" "[ids]" .green, s.badge f.hashes "[HASH]" "[hash]" .blue,
    s.badge f.tags "[TAGS]" "[tags]" .magenta, s.badge f.attributes "[ATTR]" "[attr]" .yellow]

/-- A text that tells whether all went well. -/
def status (ok : Bool) (text : String) : String := s.paint (if ok then .green else .red) .bold text

end Style

/-- A number of bytes in units of `unit` bytes, to a tenth. The number first loses what a binary
fraction of 53 digits cannot hold. -/
def tenths (bytes unit : Nat) : String :=
  let n := Number.divToEven (Number.keepBits 53 bytes * 10) unit
  toString (n / 10) ++ "." ++ toString (n % 10)

/-- A number of bytes as people read it. -/
def sizeText (bytes : Nat) : String :=
  if 1024 * 1024 ≤ bytes then tenths bytes (1024 * 1024) ++ " MB"
  else if 1024 ≤ bytes then tenths bytes 1024 ++ " KB"
  else toString bytes ++ " B"

end TagCatalog.Terminal
