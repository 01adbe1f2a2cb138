import AllpixGeometry.Vector

/-!
# The configuration reader

The detector model reads its geometry from a `ConfigReader`: an unnamed header section and a
sequence of named and unnamed sections, each a map from keys to values.  The reader is not under
`src/`; what the model uses of it is the typed lookup of the spec (§6): `get<T>(key)` fails when
the key is absent or its value does not have the shape of `T`, and `get<T>(key, default)` returns
the default only when the key is absent.

A value is held as the items the reader split it into.  The value schemas of the spec are one
number, two or three numbers, two unsigned integers, and one word.

## Main definitions

* `Atom`, `FromString` — value items, and reading a value as a `double`, `XYVector`,
  `XYZVector`, unsigned pair or string.
* `ConfigurationError` — `MissingKeyError`, `InvalidKeyError` and `InvalidValueError`.
* `Configuration.get`, `Configuration.getD` — the two forms of `get<T>`.
* `ConfigReader` — the header configuration and the sections in declaration order.

## References

`src/src/core/geometry/DetectorModel.cpp`, which calls the reader.
-/

namespace Allpix

/-! ### Inverting `Except` computations -/

section Except

variable {ε α β : Type}

theorem bind_eq_ok {x : Except ε α} {f : α → Except ε β} {b : β} :
    x >>= f = .ok b ↔ ∃ a, x = .ok a ∧ f a = .ok b := by
  cases x <;> simp [bind, Except.bind]

theorem map_eq_ok {x : Except ε α} {f : α → β} {b : β} :
    f <$> x = .ok b ↔ ∃ a, x = .ok a ∧ f a = b := by
  cases x <;> simp [Functor.map, Except.map]

@[simp] theorem pure_eq_ok {a b : α} : (pure a : Except ε α) = .ok b ↔ a = b := by
  simp [pure, Except.pure]

@[simp] theorem throw_ne_ok {e : ε} {b : α} : (throw e : Except ε α) ≠ .ok b := by
  simp [throw, throwThe, MonadExceptOf.throw]

/-- `throw e` when `failed`: the shape of every validation of the source. -/
def throwIf (failed : Prop) [Decidable failed] (e : ε) : Except ε Unit :=
  if failed then throw e else pure ()

theorem throwIf_eq_ok {failed : Prop} [Decidable failed] {e : ε} {u : Unit} :
    throwIf failed e = .ok u ↔ ¬failed := by
  unfold throwIf; split <;> simp_all

theorem tryCatch_eq_ok {x : Except ε α} {h : ε → Except ε α} {b : α} :
    tryCatch x h = .ok b ↔ x = .ok b ∨ ∃ e, x = .error e ∧ h e = .ok b := by
  cases x <;> simp [tryCatch, tryCatchThe, MonadExceptOf.tryCatch, Except.tryCatch]

end Except

/-- `std::transform(s.begin(), s.end(), s.begin(), ::tolower)`: every ASCII capital lowered. -/
def lowercase (s : String) : String := ⟨s.data.map Char.toLower⟩

/-- One whitespace-separated item of a configuration value. -/
inductive Atom where
  /-- A number. -/
  | num (q : ℚ)
  /-- Anything else. -/
  | word (s : String)
  deriving DecidableEq, Repr

/-- The item as an unsigned integer, when it is a non-negative whole number. -/
def Atom.toNat? : Atom → Option ℕ
  | .num q => if q.den = 1 ∧ 0 ≤ q.num then some q.num.toNat else none
  | .word _ => none

/-- Reading a value as a given type: `from_string<T>` of the framework. -/
class FromString (α : Type) where
  /-- The value read as an `α`, or `none` when it has another shape. -/
  fromString : List Atom → Option α

export FromString (fromString)

instance : FromString ℚ where
  fromString
    | [.num q] => some q
    | _ => none

instance : FromString XYVector where
  fromString
    | [.num x, .num y] => some ⟨x, y⟩
    | _ => none

instance : FromString XYZVector where
  fromString
    | [.num x, .num y, .num z] => some ⟨x, y, z⟩
    | _ => none

instance : FromString XYUIntVector where
  fromString
    | [a, b] => do pure ⟨← a.toNat?, ← b.toNat?⟩
    | _ => none

instance : FromString String where
  fromString
    | [.word s] => some s
    | _ => none

/-- The errors the geometry reading throws, all of them `ConfigurationError`s. -/
inductive ConfigurationError where
  /-- `MissingKeyError`: a key read without a default is absent from the section. -/
  | missingKey (key sectionName : String)
  /-- `InvalidKeyError`: the key's value does not have the shape of the type read. -/
  | invalidKey (key sectionName : String)
  /-- `InvalidValueError`: the value was read but violates a constraint. -/
  | invalidValue (key sectionName reason : String)
  deriving DecidableEq, Repr

/-- A configuration section: its name (empty for a global section) and its keys. -/
structure Configuration where
  /-- `getName()`. -/
  name : String
  /-- The key-value pairs; a key is looked up by its first occurrence. -/
  entries : List (String × List Atom)
  deriving DecidableEq, Repr

namespace Configuration

variable {α : Type} [FromString α]

/-- `has(key)`. -/
def has (c : Configuration) (key : String) : Bool := (c.entries.lookup key).isSome

/-- `get<T>(key)`: the value read as `α`, throwing when the key is absent or ill-shaped. -/
def get (c : Configuration) (key : String) : Except ConfigurationError α :=
  match c.entries.lookup key with
  | none => throw (.missingKey key c.name)
  | some v =>
    match (fromString v : Option α) with
    | none => throw (.invalidKey key c.name)
    | some a => pure a

/-- `get<T>(key, def)`: the default when the key is absent, `get<T>(key)` otherwise. -/
def getD (c : Configuration) (key : String) (default : α) : Except ConfigurationError α :=
  if c.has key then c.get key else pure default

/-- The value of `key` read as `α`; `none` when the key is absent or ill-shaped. -/
def value? (c : Configuration) (key : String) : Option α :=
  (c.entries.lookup key).bind fromString

/-- The value `getD key default` returns; `none` when it throws. -/
def valueD (c : Configuration) (key : String) (default : α) : Option α :=
  match c.entries.lookup key with
  | none => some default
  | some v => fromString v

/-- The key is present and its value has the shape of `α`. -/
def Readable (c : Configuration) (key : String) (α : Type) [FromString α] : Prop :=
  ∃ v, c.entries.lookup key = some v ∧ (fromString v : Option α).isSome

/-- The key is absent, or its value has the shape of `α`. -/
def ReadableOrAbsent (c : Configuration) (key : String) (α : Type) [FromString α] : Prop :=
  ∀ v, c.entries.lookup key = some v → (fromString v : Option α).isSome

theorem get_eq_ok {c : Configuration} {key : String} {a : α} :
    c.get key = .ok a ↔ c.value? key = some a := by
  unfold get value?
  cases c.entries.lookup key with
  | none => simp [throw, throwThe, MonadExceptOf.throw]
  | some v =>
    cases h : (fromString v : Option α) <;>
      simp [h, throw, throwThe, MonadExceptOf.throw, pure, Except.pure]

theorem getD_eq_ok {c : Configuration} {key : String} {d a : α} :
    c.getD key d = .ok a ↔ c.valueD key d = some a := by
  unfold getD has valueD
  cases h : c.entries.lookup key with
  | none => simp
  | some v => simp [get_eq_ok, value?, h]

theorem readable_iff {c : Configuration} {key : String} :
    c.Readable key α ↔ ∃ a, c.value? key = some (α := α) a := by
  unfold Readable value?
  cases c.entries.lookup key <;> simp [Option.isSome_iff_exists]

theorem readableOrAbsent_iff {c : Configuration} {key : String} (d : α) :
    c.ReadableOrAbsent key α ↔ ∃ a, c.valueD key d = some a := by
  unfold ReadableOrAbsent valueD
  cases c.entries.lookup key <;> simp [Option.isSome_iff_exists]

end Configuration

/-- The configuration reader of a detector model file. -/
structure ConfigReader where
  /-- `getHeaderConfiguration()`: the section before any named section. -/
  header : Configuration
  /-- `getConfigurations()`: every section, named and unnamed, in declaration order. -/
  sections : List Configuration
  deriving DecidableEq, Repr

/-- Modelled from the spec: `ConfigReader::getConfigurations(name)` is not under `src/`; it is
the ordered sequence of the sections named `name` (§6). -/
def ConfigReader.getConfigurationsNamed (r : ConfigReader) (name : String) :
    List Configuration :=
  r.sections.filter (·.name = name)

end Allpix
