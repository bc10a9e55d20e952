import CriticalCss.Text.Space
import CriticalCss.Text.Case
import CriticalCss.Text.Quote
import CriticalCss.Text.Decimal

/-!
# Viewports

A viewport is a browser window size in CSS pixels, written `WIDTHxHEIGHT`.

## Main definitions

* `Viewport`: a width and a height, both positive.
* `Viewport.render`: the `WIDTHxHEIGHT` text.
* `ViewportError`, `Viewport.parse`: reading the text back.
-/

namespace CriticalCss.Probe

open CriticalCss.Text

/-- A browser window size in CSS pixels. -/
structure Viewport where
  width : Int
  height : Int
deriving DecidableEq, Repr

/-- The `WIDTHxHEIGHT` text of a viewport. -/
def Viewport.render (v : Viewport) : String :=
  toString v.width ++ "x" ++ toString v.height

/-- Why a viewport text cannot be read. -/
inductive ViewportError where
  /-- The text has no `x`. -/
  | noSeparator (text : String)
  | badWidth (text : String)
  | badHeight (text : String)
deriving DecidableEq, Repr

/-- The message of a viewport problem. -/
def ViewportError.message : ViewportError → String
  | .noSeparator t => "bad viewport " ++ quote t ++ ", expected WIDTHxHEIGHT"
  | .badWidth t => "bad viewport width in " ++ quote t
  | .badHeight t => "bad viewport height in " ++ quote t

/-- Reads `WIDTHxHEIGHT`, case and surrounding blanks aside; both numbers must
be positive 64-bit integers. -/
def Viewport.parse (s : String) : Except ViewportError Viewport :=
  let t := lower (trimSpace s)
  match t.splitOn "x" with
  | [] | [_] => .error (.noSeparator s)
  | w :: rest =>
    let h := "x".intercalate rest
    match parseInt64? (trimSpace w) with
    | some width =>
      if width ≤ 0 then .error (.badWidth s)
      else match parseInt64? (trimSpace h) with
        | some height => if height ≤ 0 then .error (.badHeight s) else .ok ⟨width, height⟩
        | none => .error (.badHeight s)
    | none => .error (.badWidth s)

end CriticalCss.Probe
