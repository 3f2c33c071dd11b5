import SimCard.Element.Length
import SimCard.Proofs.Reading

/-!
# Programs on a machine

The numbers of this library are as large as they need to be, a difference that would be negative is
zero, and an octet that may not be there is an `Option`.  A machine has none of that.  Its numbers
have a width, and an operation whose result is too wide, a difference below zero, an index beyond
the end or a shift by the whole width stops the program.

A program for a machine is written here with operations that say so.

* `Fault` — what stops a program.  `Word.add` and the like, `item` and `slice` are the operations
  that can do it.
* `Stop ε` — a step on a machine ends with an error that it declares, or with a fault.
* `Step.Agrees x y s` — at `s` the program `x` does exactly what the step `y` of the library does,
  errors included, so it does not fault.  Agreement passes from parts to sequences
  (`Step.Agrees.bind`), and an operation that goes well can be left out (`Step.agrees_check`).

The width of sizes and indices is the only thing in which machines differ (`Machine`).  Octets,
characters and accumulators have theirs by nature.
-/

set_option autoImplicit false

namespace SimCard

/-! ## Operations that can fault -/

/-- What stops a program. -/
inductive Fault where
  /-- There is nothing at the index. -/
  | index
  /-- The difference is below zero. -/
  | difference
  /-- The result is too wide. -/
  | overflow
  /-- The shift is by the whole width or more. -/
  | shift
  /-- The loop goes on for ever. -/
  | endless
deriving Repr, DecidableEq

/-- A result, or a fault. -/
abbrev Checked (α : Type) : Type := Except Fault α

@[simp] theorem Checked.ok_bind {α β : Type} (a : α) (f : α → Checked β) :
    ((.ok a : Checked α) >>= f) = f a := rfl

@[simp] theorem Checked.pure_eq {α : Type} (a : α) : (pure a : Checked α) = .ok a := rfl

namespace Word

variable {bits a b amount : Nat}

/-- A number in a word of so many bits. -/
def fit (bits number : Nat) : Checked Nat :=
  if number < 1 <<< bits then .ok number else .error .overflow

/-- The sum of two words. -/
def add (bits a b : Nat) : Checked Nat := fit bits (a + b)

/-- The product of two words. -/
def mul (bits a b : Nat) : Checked Nat := fit bits (a * b)

/-- The difference of two words. -/
def sub (a b : Nat) : Checked Nat := if b ≤ a then .ok (a - b) else .error .difference

/-- A word shifted to the left; the bits that leave it are lost. -/
def shiftLeft (bits word amount : Nat) : Checked Nat :=
  if amount < bits then .ok ((word <<< amount) % (1 <<< bits)) else .error .shift

/-- A word shifted to the right. -/
def shiftRight (bits word amount : Nat) : Checked Nat :=
  if amount < bits then .ok (word >>> amount) else .error .shift

/-- A number in a word of so many bits, one of which is the sign.  Below zero there is room for one
number more. -/
def fitSigned (bits : Nat) : Int → Checked Int
  | .ofNat n => if n < 1 <<< (bits - 1) then .ok (.ofNat n) else .error .overflow
  | .negSucc n => if n < 1 <<< (bits - 1) then .ok (.negSucc n) else .error .overflow

theorem add_of_lt (h : a + b < 1 <<< bits) : add bits a b = .ok (a + b) := if_pos h

theorem mul_of_lt (h : a * b < 1 <<< bits) : mul bits a b = .ok (a * b) := if_pos h

theorem sub_of_le (h : b ≤ a) : sub a b = .ok (a - b) := if_pos h

theorem shiftRight_of_lt (h : amount < bits) : shiftRight bits a amount = .ok (a >>> amount) :=
  if_pos h

theorem shiftLeft_of_lt (h : amount < bits) (hfits : a <<< amount < 1 <<< bits) :
    shiftLeft bits a amount = .ok (a <<< amount) := by
  rw [shiftLeft, if_pos h, Nat.mod_eq_of_lt hfits]

theorem fitSigned_of_lt {number : Int} (hlow : -0x80000000 ≤ number)
    (hhigh : number < 0x80000000) : fitSigned 32 number = .ok number := by
  cases number with
  | ofNat n => exact if_pos (Int.ofNat_lt.1 hhigh)
  | negSucc n => exact if_pos (show n < 0x80000000 by omega)

/-- An octet ends at 255, nothing is below zero, and no word is shifted away. -/
example : add 8 200 56 = .error .overflow ∧ sub 0 1 = .error .difference ∧
    shiftLeft 32 1 32 = .error .shift := ⟨rfl, rfl, rfl⟩

end Word

section Lists

variable {α : Type} {items : List α} {a : α} {start stop index : Nat}

/-- The item at an index. -/
def item (items : List α) (index : Nat) : Checked α :=
  match items[index]? with
  | some a => .ok a
  | none => .error .index

/-- The items from one index up to another. -/
def slice (items : List α) (start stop : Nat) : Checked (List α) :=
  if start ≤ stop ∧ stop ≤ items.length then .ok ((items.take stop).drop start) else .error .index

theorem item_of_getElem? (h : items[index]? = some a) : item items index = .ok a := by
  rw [item, h]

theorem slice_of_le (hstart : start ≤ stop) (hstop : stop ≤ items.length) :
    slice items start stop = .ok ((items.take stop).drop start) := if_pos ⟨hstart, hstop⟩

/-- From an index to the end. -/
theorem slice_length (h : start ≤ items.length) :
    slice items start items.length = .ok (items.drop start) := by
  rw [slice_of_le h (Nat.le_refl _), List.take_length]

/-- From the beginning to an index. -/
theorem slice_zero (h : stop ≤ items.length) : slice items 0 stop = .ok (items.take stop) := by
  rw [slice_of_le (Nat.zero_le _) h, List.drop_zero]

end Lists

/-! ## Machines -/

/-- **A machine**, by the width of its sizes and indices. -/
structure Machine where
  sizeBits : Nat
  le_sizeBits : 32 ≤ sizeBits

namespace Machine

variable (m : Machine) {a b : Nat}

theorem lt_size (h : a < 0x100000000) : a < 1 <<< m.sizeBits := by
  have hle : 1 <<< 32 ≤ 1 <<< m.sizeBits := by
    rw [Nat.one_shiftLeft, Nat.one_shiftLeft]
    exact Nat.pow_le_pow_right (by decide) m.le_sizeBits
  exact Nat.lt_of_lt_of_le h hle

theorem add_size (h : a + b < 0x100000000) : Word.add m.sizeBits a b = .ok (a + b) :=
  Word.add_of_lt (m.lt_size h)

theorem mul_size (h : a * b < 0x100000000) : Word.mul m.sizeBits a b = .ok (a * b) :=
  Word.mul_of_lt (m.lt_size h)

end Machine

/-! ## Steps on a machine -/

/-- Why a program ends early: a fault, or an error that it declares. -/
inductive Stop (ε : Type) where
  | fault (cause : Fault)
  | error (cause : ε)

/-- The same stop with its errors renamed. -/
def Stop.map {ε ε' : Type} (f : ε → ε') : Stop ε → Stop ε'
  | .fault cause => .fault cause
  | .error cause => .error (f cause)

instance {σ ε : Type} : MonadLift Checked (Step σ (Stop ε)) where
  monadLift x := Step.ofExcept (x.mapError .fault)

-- Operations are lifted at once and not by way of a reader.
instance (priority := low) :
    MonadLift (Step Cursor (Stop CursorError)) (Step Cursor (Stop ElementError)) where
  monadLift x := x.mapError (Stop.map .cursor)

instance (priority := low) :
    MonadLift (Step Cursor (Stop CursorError)) (Step Cursor (Stop FieldError)) where
  monadLift x := x.mapError (Stop.map .cursor)

namespace Step

variable {σ ε ε' α β : Type} {x : Step σ (Stop ε) α} {y : Step σ ε α} {s : σ}

/-- **The program does at `s` what the step of the library does.** -/
def Agrees (x : Step σ (Stop ε) α) (y : Step σ ε α) (s : σ) : Prop := x s = y.mapError .error s

theorem agrees_pure (a : α) : Agrees (pure a : Step σ (Stop ε) α) (pure a) s := rfl

theorem agrees_fail (e : ε) : Agrees (fail (.error e) : Step σ (Stop ε) α) (fail e) s := rfl

theorem agrees_get : Agrees (get : Step σ (Stop ε) σ) get s := rfl

/-- **Programs that agree step by step agree.** -/
theorem Agrees.bind {f : α → Step σ (Stop ε) β} {g : α → Step σ ε β} (h : Agrees x y s)
    (hf : ∀ a s', y.Yields s a s' → Agrees (f a) (g a) s') : Agrees (x >>= f) (y >>= g) s := by
  rw [Agrees, bind_apply, h, mapError, mapError, bind_apply]
  cases hy : y s with
  | mk outcome s' =>
    cases outcome with
    | ok a => exact hf a s' hy
    | error e => rfl

theorem Agrees.mapError (h : Agrees x y s) (f : ε → ε') :
    Agrees (x.mapError (Stop.map f)) (y.mapError f) s := by
  rw [Agrees, Step.mapError, h, Step.mapError, Step.mapError, Step.mapError]
  cases y s with
  | mk outcome s' => cases outcome <;> rfl

/-- Programs that branch alike agree if their branches do. -/
theorem Agrees.ite {p : Prop} [Decidable p] {x' : Step σ (Stop ε) α} {y' : Step σ ε α}
    (hpos : p → Agrees x y s) (hneg : ¬ p → Agrees x' y' s) :
    Agrees (if p then x else x') (if p then y else y') s := by
  by_cases hp : p
  · rw [if_pos hp, if_pos hp]
    exact hpos hp
  · rw [if_neg hp, if_neg hp]
    exact hneg hp

theorem bind_assoc {γ : Type} (x : Step σ ε α) (f : α → Step σ ε β) (g : β → Step σ ε γ) :
    (x >>= f) >>= g = x >>= fun a => f a >>= g := by
  funext s
  rw [bind_apply, bind_apply, bind_apply]
  cases x s with
  | mk outcome s' => cases outcome <;> rfl

theorem get_bind (f : σ → Step σ (Stop ε) α) (s : σ) : (get >>= f) s = f s s := rfl

/-- An operation that goes well only hands on its result. -/
theorem check_bind {a : β} {v : Checked β} (hv : v = .ok a) (f : β → Step σ (Stop ε) α) (s : σ) :
    ((liftM v : Step σ (Stop ε) β) >>= f) s = f a s := by
  rw [hv]
  rfl

theorem agrees_check {a : β} {v : Checked β} {f : β → Step σ (Stop ε) α} (hv : v = .ok a)
    (h : Agrees (f a) y s) : Agrees ((liftM v : Step σ (Stop ε) β) >>= f) y s :=
  (check_bind hv f s).trans h

theorem Agrees.eq_of_yields {a : α} {s' : σ} (h : Agrees x y s) (hy : y.Yields s a s') :
    x s = (.ok a, s') := by
  rw [h, Step.mapError, show y s = _ from hy]

theorem Agrees.eq_of_fails {e : ε} {s' : σ} (h : Agrees x y s) (hy : y.Fails s e s') :
    x s = (.error (.error e), s') := by
  rw [h, Step.mapError, show y s = _ from hy]

/-- What agrees does not fault. -/
theorem Agrees.ne_fault (h : Agrees x y s) (fault : Fault) : (x s).1 ≠ .error (.fault fault) := by
  rw [h, Step.mapError]
  cases y s with
  | mk outcome s' =>
    cases outcome with
    | ok a =>
      intro hfault
      cases hfault
    | error e =>
      intro hfault
      cases hfault

end Step

end SimCard
