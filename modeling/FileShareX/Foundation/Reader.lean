import FileShareX.Foundation.BigEndian

/-!
# Readers that log the offsets they touch

A C++ parser reads its payload through `data() + pos`, and nothing stops it at
the end of the vector.  `Reader` keeps such a parser total: a read past the end
yields whatever memory holds there, and every offset read is logged, so that
staying inside the payload is a property to be proved.
-/

namespace Wire

/-- A vector together with the memory that follows it. -/
structure Vec where
  bytes : Bytes
  beyond : Nat → UInt8

namespace Vec

def size (v : Vec) : Nat := v.bytes.length

def byte (v : Vec) (i : Nat) : UInt8 := v.bytes.getD i (v.beyond (i - v.bytes.length))

def slice (v : Vec) (pos len : Nat) : Bytes := (List.range len).map fun i => v.byte (pos + i)

@[simp] theorem slice_length (v : Vec) (pos len : Nat) : (v.slice pos len).length = len := by
  simp [slice]

/-- Inside the vector a slice does not depend on the memory beyond it. -/
theorem slice_eq (v : Vec) {pos len : Nat} (inside : pos + len ≤ v.size) :
    v.slice pos len = (v.bytes.drop pos).take len := by
  apply List.ext_getElem
  · simp only [slice_length, List.length_take, List.length_drop, size] at inside ⊢
    omega
  · intro i low high
    have bound : pos + i < v.bytes.length := by
      simp only [slice_length, size] at low inside
      omega
    simp [slice, byte, List.getElem?_eq_getElem bound]

theorem slice_append {v : Vec} {front middle back : Bytes}
    (shape : v.bytes = front ++ (middle ++ back)) :
    v.slice front.length middle.length = middle := by
  have inside : front.length + middle.length ≤ v.size := by simp [size, shape]
  rw [slice_eq v inside, shape]
  simp

theorem slice_add (v : Vec) (pos front back : Nat) :
    v.slice pos (front + back) = v.slice pos front ++ v.slice (pos + front) back := by
  simp only [slice, List.range_add, List.map_append, List.map_map]
  congr 1
  exact List.map_congr_left fun i _ => by simp [Nat.add_assoc]

def HasAt (v : Vec) (pos : Nat) (part : Bytes) : Prop :=
  pos + part.length ≤ v.size ∧ v.slice pos part.length = part

theorem hasAt_append {v : Vec} {pos : Nat} {front back : Bytes} :
    v.HasAt pos (front ++ back) ↔ v.HasAt pos front ∧ v.HasAt (pos + front.length) back := by
  simp only [HasAt, List.length_append, slice_add]
  constructor
  · rintro ⟨inside, same⟩
    obtain ⟨first, second⟩ := List.append_inj same (by simp)
    exact ⟨⟨by omega, first⟩, by omega, second⟩
  · rintro ⟨⟨-, first⟩, inside, second⟩
    exact ⟨by omega, by rw [first, second]⟩

/-- What a vector holds from its start on is followed by arbitrary bytes. -/
theorem hasAt_zero {v : Vec} {part : Bytes} :
    v.HasAt 0 part ↔ ∃ trailing, v.bytes = part ++ trailing := by
  constructor
  · rintro ⟨inside, same⟩
    rw [slice_eq v inside, List.drop_zero] at same
    exact ⟨v.bytes.drop part.length, by rw [← List.take_append_drop part.length v.bytes, same]; simp⟩
  · rintro ⟨trailing, shape⟩
    exact ⟨by simp [size, shape], @slice_append v [] part trailing shape⟩

theorem hasAt_append_iff {v : Vec} {front back part : Bytes} (shape : v.bytes = front ++ back) :
    v.HasAt front.length part ↔ part <+: back := by
  have size : v.size = front.length + back.length := by simp [Vec.size, shape]
  rw [HasAt, List.prefix_iff_eq_take]
  constructor
  · rintro ⟨inside, same⟩
    rwa [slice_eq v inside, shape, List.drop_left, eq_comm] at same
  · intro same
    have inside : front.length + part.length ≤ v.size := by
      have length := congrArg List.length same
      rw [List.length_take] at length
      omega
    exact ⟨inside, by rw [slice_eq v inside, shape, List.drop_left, ← same]⟩

end Vec

/-- The offsets a parser has touched, and the text it threw or the value it returned. -/
structure Read (α : Type) where
  touched : List Nat
  result : Except String α

def Reader (α : Type) : Type := Vec → Read α

namespace Reader

variable {α β : Type}

instance : Monad Reader where
  pure a := fun _ => ⟨[], .ok a⟩
  bind r f := fun v =>
    match r v with
    | ⟨touched, .error text⟩ => ⟨touched, .error text⟩
    | ⟨touched, .ok a⟩ => ⟨touched ++ (f a v).touched, (f a v).result⟩

/-- `throw std::runtime_error(text)`. -/
def runtimeError (text : String) : Reader α := fun _ => ⟨[], .error text⟩

/-- `if (condition) throw std::runtime_error(text);` -/
def throwIf (condition : Prop) [Decidable condition] (text : String) : Reader Unit :=
  if condition then runtimeError text else pure ()

def size : Reader Nat := fun v => ⟨[], .ok v.size⟩

def bytes (pos len : Nat) : Reader Bytes := fun v => ⟨List.range' pos len, .ok (v.slice pos len)⟩

def byte (pos : Nat) : Reader UInt8 := fun v => ⟨[pos], .ok (v.byte pos)⟩

def touched (r : Reader α) (v : Vec) : List Nat := (r v).touched

def result (r : Reader α) (v : Vec) : Except String α := (r v).result

/-! ### What a reader returns -/

@[simp] theorem ok_bind (a : α) (f : α → Except String β) : (Except.ok a >>= f) = f a := rfl

@[simp] theorem error_bind (text : String) (f : α → Except String β) :
    (Except.error text >>= f) = .error text := rfl

theorem bind_eq_ok {outcome : Except String α} {f : α → Except String β} {b : β} :
    (outcome >>= f) = .ok b ↔ ∃ a, outcome = .ok a ∧ f a = .ok b := by
  cases outcome with
  | error text => simp
  | ok a => simp

@[simp] theorem result_pure (a : α) (v : Vec) : (pure a : Reader α).result v = .ok a := rfl

@[simp] theorem result_bind (r : Reader α) (f : α → Reader β) (v : Vec) :
    (r >>= f).result v = r.result v >>= fun a => (f a).result v := by
  show Read.result (match r v with
    | ⟨touched, .error text⟩ => ⟨touched, .error text⟩
    | ⟨touched, .ok a⟩ => ⟨touched ++ (f a v).touched, (f a v).result⟩) = _
  unfold Reader.result
  rcases r v with ⟨touched, text | a⟩ <;> rfl

@[simp] theorem result_runtimeError (text : String) (v : Vec) :
    (runtimeError text : Reader α).result v = .error text := rfl

@[simp] theorem result_throwIf (condition : Prop) [Decidable condition] (text : String) (v : Vec) :
    (throwIf condition text).result v = if condition then .error text else .ok () := by
  unfold throwIf
  split <;> rfl

@[simp] theorem result_size (v : Vec) : size.result v = .ok v.size := rfl

@[simp] theorem result_bytes (pos len : Nat) (v : Vec) :
    (bytes pos len).result v = .ok (v.slice pos len) := rfl

@[simp] theorem result_byte (pos : Nat) (v : Vec) : (byte pos).result v = .ok (v.byte pos) := rfl

@[simp] theorem result_ite (condition : Prop) [Decidable condition] (r s : Reader α) (v : Vec) :
    (if condition then r else s).result v = if condition then r.result v else s.result v := by
  split <;> rfl

theorem throwIf_bind_eq_ok {condition : Prop} [Decidable condition] {text : String}
    {f : Unit → Reader β} {v : Vec} {b : β} :
    (throwIf condition text >>= f).result v = .ok b ↔ ¬ condition ∧ (f ()).result v = .ok b := by
  rw [result_bind, result_throwIf]
  by_cases holds : condition <;> simp [holds]

/-! ### Which offsets a reader touches -/

theorem touched_bind (r : Reader α) (f : α → Reader β) (v : Vec) :
    (r >>= f).touched v =
      r.touched v ++ (match r.result v with | .ok a => (f a).touched v | .error _ => []) := by
  show Read.touched (match r v with
    | ⟨touched, .error text⟩ => ⟨touched, .error text⟩
    | ⟨touched, .ok a⟩ => ⟨touched ++ (f a v).touched, (f a v).result⟩) = _
  unfold Reader.touched Reader.result
  rcases r v with ⟨touched, text | a⟩ <;> simp

@[simp] theorem touched_pure (a : α) (v : Vec) : (pure a : Reader α).touched v = [] := rfl

@[simp] theorem touched_runtimeError (text : String) (v : Vec) :
    (runtimeError text : Reader α).touched v = [] := rfl

@[simp] theorem touched_throwIf (condition : Prop) [Decidable condition] (text : String) (v : Vec) :
    (throwIf condition text).touched v = [] := by
  unfold throwIf
  split <;> rfl

@[simp] theorem touched_size (v : Vec) : size.touched v = [] := rfl

@[simp] theorem touched_bytes (pos len : Nat) (v : Vec) :
    (bytes pos len).touched v = List.range' pos len := rfl

@[simp] theorem touched_byte (pos : Nat) (v : Vec) : (byte pos).touched v = [pos] := rfl

/-- On `v` the reader stays inside the vector, and what it returns satisfies `post`. -/
def Within (v : Vec) (r : Reader α) (post : α → Prop) : Prop :=
  (∀ i ∈ r.touched v, i < v.size) ∧ ∀ a, r.result v = .ok a → post a

namespace Within

variable {v : Vec} {r : Reader α} {f : α → Reader β} {P : α → Prop} {Q : β → Prop}

theorem pure {a : α} (holds : P a) : Within v (pure a : Reader α) P := by
  refine ⟨by simp, ?_⟩
  rintro _ ⟨⟩
  exact holds

theorem runtimeError (text : String) : Within v (runtimeError text : Reader α) P :=
  ⟨by simp, by simp⟩

theorem bind (first : Within v r P) (second : ∀ a, P a → Within v (f a) Q) :
    Within v (r >>= f) Q := by
  obtain ⟨inside, returns⟩ := first
  unfold Within
  rw [touched_bind, result_bind]
  cases outcome : r.result v with
  | error text =>
    refine ⟨fun i member => inside i (by simpa using member), ?_⟩
    intro b returned
    cases returned
  | ok a =>
    have next := second a (returns a outcome)
    refine ⟨fun i member => ?_, next.2⟩
    rcases List.mem_append.mp member with early | late
    · exact inside i early
    · exact next.1 i late

theorem weaken (all : Within v r P) {P' : α → Prop} (imp : ∀ a, P a → P' a) : Within v r P' :=
  ⟨all.1, fun a returned => imp a (all.2 a returned)⟩

theorem throwIf {condition : Prop} [Decidable condition] (text : String) :
    Within v (throwIf condition text) fun _ => ¬ condition := by
  unfold Reader.throwIf
  split
  · exact runtimeError text
  · exact pure ‹_›

theorem size : Within v Reader.size fun n => n = v.size :=
  ⟨by simp, by simp [eq_comm]⟩

theorem bytes {pos len : Nat} (inside : pos + len ≤ v.size) :
    Within v (Reader.bytes pos len) fun b => b = v.slice pos len := by
  refine ⟨fun i member => ?_, by simp [eq_comm]⟩
  rw [touched_bytes, List.mem_range'_1] at member
  omega

theorem byte {pos : Nat} (inside : pos < v.size) :
    Within v (Reader.byte pos) fun b => b = v.byte pos :=
  ⟨by simpa using inside, by simp [eq_comm]⟩

theorem ite {condition : Prop} [Decidable condition] {s : Reader α}
    (yes : condition → Within v r P) (no : ¬ condition → Within v s P) :
    Within v (if condition then r else s) P := by
  split
  · exact yes ‹_›
  · exact no ‹_›

end Within

/-- Whatever the vector, a text the reader throws satisfies `post`. -/
def Throws (r : Reader α) (post : String → Prop) : Prop :=
  ∀ v text, r.result v = .error text → post text

namespace Throws

variable {r : Reader α} {f : α → Reader β} {post : String → Prop}

theorem bind (first : Throws r post) (second : ∀ a, Throws (f a) post) : Throws (r >>= f) post := by
  intro v text thrown
  rw [result_bind] at thrown
  cases outcome : r.result v with
  | error text' =>
    rw [outcome, error_bind] at thrown
    cases thrown
    exact first v text outcome
  | ok a =>
    rw [outcome, ok_bind] at thrown
    exact second a v text thrown

theorem returns (total : ∀ v, ∃ a, r.result v = .ok a) : Throws r post := by
  intro v text thrown
  obtain ⟨a, returned⟩ := total v
  rw [returned] at thrown
  cases thrown

theorem throwIf {condition : Prop} [Decidable condition] {text : String} (holds : post text) :
    Throws (throwIf condition text) post := by
  intro v text' thrown
  rw [result_throwIf] at thrown
  split at thrown
  · cases thrown
    exact holds
  · cases thrown

end Throws

end Reader

end Wire
