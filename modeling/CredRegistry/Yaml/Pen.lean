/-!
# Writing indented text

A `Pen` is a text that is being written, with what the next piece of it depends
on: the column, whether a blank stands in front of it, and whether the line holds
nothing but indentation and indicators so far.
-/

namespace CredRegistry.Yaml

/-- A text that is being written. -/
structure Pen where
  /-- The characters written, latest first. -/
  written : List Char
  column : Nat
  afterBlank : Bool
  inIndent : Bool

namespace Pen

def start : Pen := ⟨[], 0, true, true⟩

def text (p : Pen) : String := String.ofList p.written.reverse

def put (p : Pen) (c : Char) : Pen :=
  { p with written := c :: p.written, column := p.column + 1 }

/-- Write characters that are no line breaks. -/
def puts (p : Pen) (cs : List Char) : Pen := cs.foldl put p

def putBreak (p : Pen) (c : Char) : Pen := { p with written := c :: p.written, column := 0 }

def afterText (p : Pen) : Pen := { p with afterBlank := false, inIndent := false }

def gap (p : Pen) : Pen := if p.afterBlank then p else p.put ' '

/-- Go to column `n`, on a new line if need be. -/
def indentTo (p : Pen) (n : Nat) : Pen :=
  let p :=
    if !p.inIndent || n < p.column || (p.column == n && !p.afterBlank) then p.putBreak '\n'
    else p
  { p.puts (List.replicate (n - p.column) ' ') with afterBlank := true, inIndent := true }

/-- Write an indicator that marks structure: the line goes on counting as
indentation. -/
def marker (p : Pen) (c : Char) : Pen :=
  { p.gap.put c with afterBlank := false }

/-- Write an indicator that belongs to what stands in front of it. -/
def suffix (p : Pen) (cs : List Char) : Pen := (p.puts cs).afterText

def separate (p : Pen) (cs : List Char) : Pen := (p.gap.puts cs).afterText

end Pen

end CredRegistry.Yaml
