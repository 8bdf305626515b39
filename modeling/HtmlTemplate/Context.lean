import HtmlTemplate.Error.Basic
import HtmlTemplate.Value.Basic

/-!
# Contexts

A context is a stack of frames that is never empty. Names are bound in the innermost frame and
looked up from there outwards, so that an inner binding hides an outer one until its frame is
released.
-/

namespace HtmlTemplate

abbrev HostFunction := List Value → Except Error Value

inductive Binding where
  | value (v : Value)
  | function (f : HostFunction)

namespace Binding

def value? : Binding → Option Value
  | .value v => some v
  | .function _ => none

def function? : Binding → Option HostFunction
  | .value _ => none
  | .function f => some f

end Binding

abbrev Frame := Entries Binding

structure Context where
  innermost : Frame := []
  /-- The frames further out, from the inside. -/
  outer : List Frame := []

namespace Context

def empty : Context := {}

def frames (c : Context) : List Frame := c.innermost :: c.outer

def depth (c : Context) : Nat := c.outer.length + 1

/-- The first of the frames that binds a name decides. -/
def lookupIn (name : String) (frames : List Frame) : Option Binding :=
  frames.findSome? (Entries.get? name)

def lookup (c : Context) (name : String) : Option Binding := lookupIn name c.frames

def get? (c : Context) (name : String) : Option Value := (c.lookup name).bind Binding.value?

def function? (c : Context) (name : String) : Option HostFunction :=
  (c.lookup name).bind Binding.function?

def contains (c : Context) (name : String) : Bool := (c.lookup name).isSome

def assign (c : Context) (name : String) (b : Binding) : Context :=
  { c with innermost := c.innermost.put name b }

/-- Binds a value of the host. Either it was read as a value, or it is told why it is none. -/
def insert (c : Context) (name : String) (read : Except String Value) : Except Error Context :=
  match read with
  | .ok v => .ok (c.assign name (.value v))
  | .error why =>
    .error { reason := "value for `" ++ name ++ "` is unserializable", help := some why }

def insertFunction (c : Context) (name : String) (f : HostFunction) : Context :=
  c.assign name (.function f)

/-- Of bindings of one name the last counts. -/
def push (c : Context) (bindings : List (String × Binding)) : Context :=
  { innermost := Entries.ofPairs bindings, outer := c.frames }

/-- Releases frames down to a depth. The outermost frame stays. -/
def release (depth : Nat) (c : Context) : Context :=
  match c with
  | ⟨_, []⟩ => c
  | ⟨_, f :: fs⟩ => if c.depth ≤ depth then c else release depth ⟨f, fs⟩
termination_by c.outer.length

theorem lookup_assign (c : Context) (name other : String) (b : Binding) :
    (c.assign name b).lookup other = if name = other then some b else c.lookup other := by
  simp only [lookup, lookupIn, frames, assign, List.findSome?_cons, Entries.get?_put]
  by_cases h : name = other <;> simp [h]

theorem depth_push (c : Context) (bindings : List (String × Binding)) :
    (c.push bindings).depth = c.depth + 1 := rfl

theorem depth_release (d : Nat) (c : Context) : (c.release d).depth = min c.depth (max d 1) := by
  fun_induction release d c with
  | case1 => simp only [depth, List.length_nil]; omega
  | case2 _ f fs h => rw [if_pos h]; simp only [depth, List.length_cons] at h ⊢; omega
  | case3 _ f fs h ih => rw [if_neg h, ih]; simp only [depth, List.length_cons] at h ⊢; omega

theorem release_push (c : Context) (bindings : List (String × Binding)) :
    (c.push bindings).release c.depth = c := by
  obtain ⟨f, fs⟩ := c
  have deeper : ¬ (push ⟨f, fs⟩ bindings).depth ≤ (depth ⟨f, fs⟩) := by
    rw [depth_push]; omega
  rw [push, frames, release]
  simp only [push, frames] at deeper
  rw [if_neg deeper]
  cases fs with
  | nil => rw [release]
  | cons g gs => rw [release]; exact if_pos (Nat.le_refl _)

end Context

/-- A context and the depths at which the frames still held were pushed, innermost first. -/
structure Scope where
  context : Context := {}
  held : List Nat := []

namespace Scope

def push (s : Scope) (bindings : List (String × Binding)) : Scope :=
  { context := s.context.push bindings, held := s.context.depth :: s.held }

/-- Releases the frame pushed last, if one is held. -/
def pop? (s : Scope) : Option Scope :=
  match s.held with
  | [] => none
  | depth :: held => some { context := s.context.release depth, held }

/-- Puts another context in place of the current one; frames stay held. -/
def replace (s : Scope) (context : Context) : Scope := { s with context }

end Scope

end HtmlTemplate
