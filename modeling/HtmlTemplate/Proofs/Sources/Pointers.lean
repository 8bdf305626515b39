import HtmlTemplate.Error.Basic
import HtmlTemplate.Proofs.Grammar.Errors
import Mathlib.Data.List.DropRight

/-!
# Places that pointers name

A pointer counts the line feeds in front of its region and the columns behind the last of them. It
shows the line that it names, without the carriage returns at its end, and carets below the region.
-/

namespace HtmlTemplate

variable {l cs before after : List Char}

/-! ## Lines -/

namespace Position

end Position

/-! ## Pointers -/

namespace Pointer

/-- The region begins and stops between two characters of the source, around this text. -/
structure Covers (source : List Char) (region : Region) (text : List Char) : Prop where
  around : ∃ before after, source = before ++ text ++ after ∧
    region = ⟨byteLength before, byteLength (before ++ text)⟩

end Pointer

end HtmlTemplate
