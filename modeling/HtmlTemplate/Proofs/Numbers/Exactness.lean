import HtmlTemplate.Template.Eval

/-!
# Exact integers

A sum, difference or product of integers is the exact result or an overflow. The operands alone
decide which results overflow: two of the signed range need a result of that range, a larger operand
makes room for the whole range of integers.
-/

namespace HtmlTemplate

namespace Integer

/-- An exact result that is refused for the sake of the operands. -/
def Overflows (a b : Integer) (result : Int) : Prop :=
  ((a.val < 0x8000000000000000 ∧ b.val < 0x8000000000000000) ∧
    ¬(-0x8000000000000000 ≤ result ∧ result < 0x8000000000000000)) ∨
  ((0x8000000000000000 ≤ a.val ∨ 0x8000000000000000 ≤ b.val) ∧
    ¬(-0x8000000000000000 ≤ result ∧ result < 0x10000000000000000))

/-- Neither both signed nor both unsigned words. -/
def Mixed (a b : Integer) : Prop :=
  ¬(Word.signed64.Holds a.val ∧ Word.signed64.Holds b.val) ∧
    ¬(Word.unsigned64.Holds a.val ∧ Word.unsigned64.Holds b.val)

instance (a b : Integer) (result : Int) : Decidable (Overflows a b result) := by
  unfold Overflows
  infer_instance

theorem overflows_comm {a b : Integer} {result : Int} :
    Overflows a b result ↔ Overflows b a result := by
  simp only [Overflows]
  omega

theorem exists_of_not_overflows {a b : Integer} {result : Int}
    (fits : ¬ Overflows a b result) : ∃ k : Integer, k.val = result := by
  simp only [Overflows] at fits
  exact ⟨⟨result, by omega, by omega⟩, rfl⟩

theorem mixed_iff {a b : Integer} :
    Mixed a b ↔
      (a.val < 0 ∧ 0x8000000000000000 ≤ b.val) ∨ (0x8000000000000000 ≤ a.val ∧ b.val < 0) := by
  have := a.low
  have := a.high
  have := b.low
  have := b.high
  simp only [Mixed, Word.Holds]
  omega

theorem fit_eq_some_iff {words : List Word} {i : Int} {k : Integer} :
    fit words i = some k ↔ (∃ w ∈ words, w.Holds i) ∧ k.val = i := by
  unfold fit
  split
  · next held => rw [ofInt?_eq_some_iff, and_iff_right held]
  · next held => simp only [reduceCtorEq, held, false_and]

/-- With mixed results in the range of the wide word, the three ways to compute make one rule. -/
theorem combine_eq_some_iff {f : Int → Int → Int} {a b k : Integer}
    (wide : Mixed a b → Word.signed128.Holds (f a.val b.val)) :
    combine f a b = some k ↔ ¬ Overflows a b (f a.val b.val) ∧ k.val = f a.val b.val := by
  have aLow := a.low
  have bLow := b.low
  unfold combine
  split
  · next signed =>
    rw [fit_eq_some_iff]
    refine and_congr_left fun _ => ?_
    simp only [List.mem_singleton, exists_eq_left, Overflows]
    simp only [Word.Holds] at signed ⊢
    omega
  · next notSigned =>
    split
    · next unsigned =>
      rw [fit_eq_some_iff]
      refine and_congr_left fun _ => ?_
      simp only [List.mem_cons, List.not_mem_nil, or_false, exists_eq_or_imp, exists_eq_left,
        Overflows]
      simp only [Word.Holds] at notSigned unsigned ⊢
      omega
    · next notUnsigned =>
      rw [if_pos (wide ⟨notSigned, notUnsigned⟩), fit_eq_some_iff]
      refine and_congr_left fun _ => ?_
      simp only [List.mem_cons, List.not_mem_nil, or_false, exists_eq_or_imp, exists_eq_left,
        Overflows]
      simp only [Word.Holds] at notSigned notUnsigned ⊢
      omega

theorem combine_eq_none_iff {f : Int → Int → Int} {a b : Integer}
    (wide : Mixed a b → Word.signed128.Holds (f a.val b.val)) :
    combine f a b = none ↔ Overflows a b (f a.val b.val) := by
  rw [Option.eq_none_iff_forall_ne_some]
  refine ⟨fun refused => Classical.not_not.mp fun fits => ?_, fun overflows k combined => ?_⟩
  · obtain ⟨k, exactly⟩ := exists_of_not_overflows fits
    exact refused k ((combine_eq_some_iff wide).mpr ⟨fits, exactly⟩)
  · exact ((combine_eq_some_iff wide).mp combined).1 overflows

theorem combine_comm {f : Int → Int → Int} (comm : ∀ i j, f i j = f j i) {a b : Integer}
    (wide : ∀ a b : Integer, Mixed a b → Word.signed128.Holds (f a.val b.val)) :
    combine f a b = combine f b a := by
  refine Option.ext fun k => ?_
  rw [combine_eq_some_iff (wide a b), combine_eq_some_iff (wide b a), overflows_comm, comm]

theorem wide_add (a b : Integer) : Word.signed128.Holds (a.val + b.val) := by
  have := a.low
  have := a.high
  have := b.low
  have := b.high
  simp only [Word.Holds]
  omega

theorem wide_sub (a b : Integer) : Word.signed128.Holds (a.val - b.val) := by
  have := a.low
  have := a.high
  have := b.low
  have := b.high
  simp only [Word.Holds]
  omega

/-- The product of two large integers may pass every word, that of a negative and a large one
cannot. -/
theorem wide_mul {a b : Integer} (mixed : Mixed a b) : Word.signed128.Holds (a.val * b.val) := by
  have bounded : ∀ negative large : Integer, negative.val < 0 → 0 ≤ large.val →
      Word.signed128.Holds (negative.val * large.val) := by
    intro negative large below above
    have low := negative.low
    have high := large.high
    have least : -0x8000000000000000 * large.val ≤ negative.val * large.val :=
      Int.mul_le_mul_of_nonneg_right low above
    have most : negative.val * large.val ≤ 0 :=
      Int.mul_nonpos_of_nonpos_of_nonneg (Int.le_of_lt below) above
    simp only [Word.Holds]
    omega
  rcases mixed_iff.mp mixed with ⟨below, above⟩ | ⟨above, below⟩
  · exact bounded a b below (by omega)
  · rw [Int.mul_comm]
    exact bounded b a below (by omega)

end Integer

namespace Operator

/-- On integers the operator is `f` or an arithmetic error. -/
structure Exact (op : Operator) (f : Int → Int → Int) : Prop where
  result : ∀ a b : Integer,
    (∃ k : Integer, op.applyValues (.number (.int a)) (.number (.int b)) = .ok (.number (.int k)) ∧
      k.val = f a.val b.val) ∨
    (∃ cause, op.applyValues (.number (.int a)) (.number (.int b)) = .error cause ∧
      cause.error.kind = .arithmetic)
  fails_iff : ∀ a b : Integer,
    (∃ cause, op.applyValues (.number (.int a)) (.number (.int b)) = .error cause) ↔
      a.Overflows b (f a.val b.val)
  wide : ∀ a b : Integer, op = .subtract ∨ a.Mixed b → Word.signed128.Holds (f a.val b.val)

theorem applyValues_of_onInts {op : Operator} {f : Int → Int → Int} (keeps : op.onInts? = some f)
    (a b : Integer) :
    op.applyValues (.number (.int a)) (.number (.int b)) =
      match Integer.combine f a b with
      | some k => .ok (.number (.int k))
      | none => .error (.arithmetic (.integerOverflow op)) := by
  simp only [applyValues, Number.apply, keeps]
  cases Integer.combine f a b <;> rfl

theorem exact_of_onInts {op : Operator} {f : Int → Int → Int} (keeps : op.onInts? = some f)
    (wide : ∀ a b : Integer, op = .subtract ∨ a.Mixed b →
      Word.signed128.Holds (f a.val b.val)) : op.Exact f where
  result a b := by
    have rule := @Integer.combine_eq_some_iff f a b
    rw [applyValues_of_onInts keeps]
    cases combined : Integer.combine f a b with
    | some k => exact .inl ⟨k, rfl, ((rule fun mixed => wide a b (.inr mixed)).mp combined).2⟩
    | none => exact .inr ⟨_, rfl, rfl⟩
  fails_iff a b := by
    have rule := Integer.combine_eq_none_iff fun mixed => wide a b (.inr mixed)
    rw [applyValues_of_onInts keeps, ← rule]
    cases combined : Integer.combine f a b <;> simp
  wide := wide

/-- The operands may change places. -/
def Commutes (op : Operator) : Prop :=
  ∀ a b : Integer, op.applyValues (.number (.int a)) (.number (.int b)) =
    op.applyValues (.number (.int b)) (.number (.int a))

theorem commutes_of_onInts {op : Operator} {f : Int → Int → Int} (keeps : op.onInts? = some f)
    (comm : ∀ i j, f i j = f j i)
    (wide : ∀ a b : Integer, a.Mixed b → Word.signed128.Holds (f a.val b.val)) : op.Commutes := by
  intro a b
  rw [applyValues_of_onInts keeps, applyValues_of_onInts keeps, Integer.combine_comm comm wide]

theorem ofFloat_ne_int {x : Float} {k : Integer} : Number.ofFloat x ≠ .ok (.int k) := by
  unfold Number.ofFloat
  split <;> simp

theorem divide_ne_int {a b : Number} {k : Integer} : Number.divide a b ≠ .ok (.int k) := by
  unfold Number.divide
  split
  · simp
  · exact ofFloat_ne_int

theorem toFloat_zero {zero : Integer} (isZero : zero.val = 0) : (zero.toFloat == 0.0) = true := by
  simp only [Integer.toFloat, isZero]
  decide

theorem divide_zero (a : Number) {zero : Integer} (isZero : zero.val = 0) :
    Number.divide a (.int zero) = .error .divisionByZero := by
  rw [Number.divide, Number.toFloat.eq_1 zero, if_pos (toFloat_zero isZero)]

theorem apply_eq_int {op : Operator} {a b : Number} {k : Integer}
    (applied : Number.apply op a b = .ok (.int k)) :
    op ≠ .divide ∧ ∃ i j : Integer, a = .int i ∧ b = .int j := by
  cases op with
  | divide => exact absurd applied divide_ne_int
  | add | subtract | multiply =>
    refine ⟨nofun, ?_⟩
    cases a with
    | float x => exact absurd applied ofFloat_ne_int
    | int i =>
      cases b with
      | float y => exact absurd applied ofFloat_ne_int
      | int j => exact ⟨i, j, rfl, rfl⟩

theorem arithmeticError_kind (f : ArithmeticFault) :
    (FailureCause.arithmeticError f).kind = .arithmetic := by
  cases f <;> rfl

/-- Numbers never fail for their type, and everything else always does. -/
theorem typeMismatch_iff {op : Operator} {left right : Value} :
    (∃ cause, op.applyValues left right = .error cause ∧ cause.error.kind = .typeMismatch) ↔
      ¬((∃ a, left = .number a) ∧ ∃ b, right = .number b) := by
  unfold applyValues
  split
  · next a b =>
    refine iff_of_false ?_ (Classical.not_not.mpr ⟨⟨a, rfl⟩, ⟨b, rfl⟩⟩)
    rintro ⟨cause, failed, kind⟩
    cases applied : Number.apply op a b with
    | ok n => simp [applied] at failed
    | error f =>
      simp only [applied, Except.error.injEq] at failed
      subst failed
      exact absurd ((arithmeticError_kind f).symm.trans kind) nofun
  · next other =>
    refine iff_of_true ⟨_, rfl, rfl⟩ ?_
    rintro ⟨⟨a, isLeft⟩, ⟨b, isRight⟩⟩
    exact other a b isLeft isRight

theorem applyValues_exact :
    (Operator.add.Exact (· + ·) ∧ Operator.subtract.Exact (· - ·) ∧
      Operator.multiply.Exact (· * ·)) ∧
    (Operator.add.Commutes ∧ Operator.multiply.Commutes) ∧
    (∀ (op : Operator) (a b : Number) (k : Integer),
      op.applyValues (.number a) (.number b) = .ok (.number (.int k)) →
        op ≠ .divide ∧ ∃ i j : Integer, a = .int i ∧ b = .int j) ∧
    (∀ (a : Number) (zero : Integer), zero.val = 0 →
      ∃ cause, Operator.divide.applyValues (.number a) (.number (.int zero)) = .error cause ∧
        cause.error.kind = .arithmetic) ∧
    (∀ (op : Operator) (left right : Value),
      (∃ cause, op.applyValues left right = .error cause ∧ cause.error.kind = .typeMismatch) ↔
        ¬((∃ a, left = .number a) ∧ ∃ b, right = .number b)) := by
  refine ⟨⟨exact_of_onInts rfl fun a b _ => Integer.wide_add a b,
      exact_of_onInts rfl fun a b _ => Integer.wide_sub a b,
      exact_of_onInts rfl fun a b wide => Integer.wide_mul (wide.resolve_left nofun)⟩,
    ⟨commutes_of_onInts rfl Int.add_comm fun a b _ => Integer.wide_add a b,
      commutes_of_onInts rfl Int.mul_comm fun _ _ => Integer.wide_mul⟩, ?_, ?_,
    fun _ _ _ => typeMismatch_iff⟩
  · intro op a b k applied
    refine apply_eq_int ?_ (k := k)
    simp only [applyValues] at applied
    split at applied
    · next n result =>
      simp only [Except.ok.injEq, Value.number.injEq] at applied
      rw [result, applied]
    · simp only [reduceCtorEq] at applied
  · intro a zero isZero
    have failed : Number.apply .divide a (.int zero) = .error .divisionByZero :=
      divide_zero a isZero
    exact ⟨.arithmetic .divisionByZero, by rw [applyValues, failed], rfl⟩

/-- The largest signed integer has no successor of its own kind, the next larger one has. -/
theorem successors_of_large :
    (∃ cause, Operator.add.applyValues (.number (.int ⟨0x7fffffffffffffff, by decide, by decide⟩))
      (.number (.int ⟨1, by decide, by decide⟩)) = .error cause) ∧
    ¬(∃ cause, Operator.add.applyValues (.number (.int ⟨0x8000000000000000, by decide, by decide⟩))
      (.number (.int ⟨1, by decide, by decide⟩)) = .error cause) ∧
    Operator.multiply ≠ .divide ∧
    (∃ cause, Operator.divide.applyValues (.number (.int ⟨1, by decide, by decide⟩))
      (.number (.int ⟨0, by decide, by decide⟩)) = .error cause ∧
      cause.error.kind = .arithmetic) := by
  obtain ⟨⟨sum, -, -⟩, -, integers, zero, -⟩ := applyValues_exact
  refine ⟨(sum.fails_iff _ _).mpr (by decide), fun failed => ?_, ?_, zero _ _ rfl⟩
  · exact absurd ((sum.fails_iff _ _).mp failed) (by decide)
  · exact (integers .multiply (.int ⟨2, by decide, by decide⟩) (.int ⟨3, by decide, by decide⟩)
      ⟨6, by decide, by decide⟩ rfl).1

end Operator

end HtmlTemplate
