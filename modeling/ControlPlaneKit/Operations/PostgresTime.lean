import ControlPlaneKit.Operations.Temporal
import Mathlib.Data.Prod.Lex

/-!
# PostgresTime — the datetimes of temporal columns

A temporal column holds an aware datetime.  The language of cursors renders it with
all six digits of microseconds, and reads exactly those texts back.
-/

namespace ControlPlaneKit.Operations

/-! ## Digits -/

/-- `format(value, "0{width}d")` of a number of at most `width` digits. -/
def decimalText : Nat → Nat → List Char
  | 0, _ => []
  | width + 1, value => decimalText width (value / 10) ++ [Nat.digitChar (value % 10)]

theorem digitChar_toNat : ∀ value < 10, (Nat.digitChar value).toNat = 48 + value := by
  decide

theorem decimalText_digits (width value : Nat) :
    ∀ c ∈ decimalText width value, 48 ≤ c.toNat ∧ c.toNat ≤ 57 := by
  induction width generalizing value with
  | zero => simp [decimalText]
  | succ width ih =>
      intro c hc
      rw [decimalText, List.mem_append, List.mem_singleton] at hc
      rcases hc with hc | rfl
      · exact ih _ c hc
      · rw [digitChar_toNat _ (Nat.mod_lt _ (by decide))]
        omega

/-- **The digits of a number stand for it.** -/
theorem decimal_decimalText (width value : Nat) (h : value < 10 ^ width) :
    decimal (decimalText width value) = some value := by
  induction width generalizing value with
  | zero =>
      have hzero : value = 0 := by omega
      rw [hzero]
      rfl
  | succ width ih =>
      have hfront : decimal (decimalText width (value / 10)) = some (value / 10) :=
        ih _ (by rw [Nat.pow_succ] at h; omega)
      have hlast := digitChar_toNat (value % 10) (Nat.mod_lt _ (by decide))
      unfold decimal at hfront ⊢
      rw [decimalText, List.foldlM_append, hfront]
      simp only [Option.bind_eq_bind, Option.bind_some, List.foldlM_cons,
        List.foldlM_nil, hlast]
      rw [if_pos (by omega)]
      simp only [Option.bind_some, Option.pure_def, Option.some.injEq]
      omega

/-! ## Datetimes -/

/-- What `datetime(…)` takes. -/
def IsDatetime (year month day hour minute second microsecond : Nat) : Prop :=
  (1 ≤ year ∧ year ≤ 9999) ∧ (1 ≤ month ∧ month ≤ 12) ∧
    (1 ≤ day ∧ day ≤ daysInMonth year month) ∧
    hour ≤ 23 ∧ minute ≤ 59 ∧ second ≤ 59 ∧ microsecond ≤ 999999

instance (year month day hour minute second microsecond : Nat) :
    Decidable (IsDatetime year month day hour minute second microsecond) :=
  inferInstanceAs (Decidable (_ ∧ _))

/-- An aware datetime, in UTC. -/
structure UtcDatetime where
  year : Nat
  month : Nat
  day : Nat
  hour : Nat
  minute : Nat
  second : Nat
  microsecond : Nat
  valid : IsDatetime year month day hour minute second microsecond
  deriving DecidableEq

namespace UtcDatetime

/-- Datetimes compare field by field, the larger unit first. -/
def fields (value : UtcDatetime) : Nat ×ₗ Nat ×ₗ Nat ×ₗ Nat ×ₗ Nat ×ₗ Nat ×ₗ Nat :=
  toLex (value.year, toLex (value.month, toLex (value.day, toLex (value.hour,
    toLex (value.minute, toLex (value.second, value.microsecond))))))

theorem fields_injective : Function.Injective fields := by
  intro a b h
  cases a
  cases b
  simpa [fields] using h

instance : LinearOrder UtcDatetime := LinearOrder.lift' fields fields_injective

/-- The instant, as the records count it. -/
def timestamp (value : UtcDatetime) : Timestamp :=
  (((daysBefore value.year value.month value.day * 24 + value.hour) * 60 +
    value.minute) * 60 +
    value.second) * 1000000 + value.microsecond

theorem day_le (value : UtcDatetime) : value.day ≤ 31 := by
  have hday := value.valid.2.2.1.2
  refine hday.trans ?_
  unfold daysInMonth
  split
  · split <;> decide
  · split <;> decide

end UtcDatetime

/-! ## The cursor language's text -/

/-- `isoformat` up to the seconds. -/
def isoSeconds (value : UtcDatetime) : List Char :=
  decimalText 4 value.year ++ '-' :: decimalText 2 value.month ++ '-' ::
    decimalText 2 value.day ++
    'T' :: decimalText 2 value.hour ++ ':' :: decimalText 2 value.minute ++
    ':' :: decimalText 2 value.second

/-- `_render_utc(value)`: no microseconds where there are none. -/
def renderUtc (value : UtcDatetime) : List Char :=
  isoSeconds value ++
    (if value.microsecond = 0 then []
      else '.' :: decimalText 6 value.microsecond) ++ ['Z']

/-- `decode_postgres_cursor_timestamp(value)`. -/
def decodePostgresCursorTimestamp (value : UtcDatetime) : String :=
  let rendered := renderUtc value
  String.ofList (if rendered.contains '.' then rendered
    else rendered.dropLast ++ ".000000Z".toList)

/-- The datetime of a text in the layout `YYYY-MM-DDTHH:MM:SS.ffffffZ`. -/
def parseInstant (value : String) : Option UtcDatetime :=
  match value.toList with
  | [y₁, y₂, y₃, y₄, '-', m₁, m₂, '-', d₁, d₂, 'T', h₁, h₂, ':', n₁, n₂,
      ':', s₁, s₂, '.', f₁, f₂, f₃, f₄, f₅, f₆, 'Z'] => do
      let year ← decimal [y₁, y₂, y₃, y₄]
      let month ← decimal [m₁, m₂]
      let day ← decimal [d₁, d₂]
      let hour ← decimal [h₁, h₂]
      let minute ← decimal [n₁, n₂]
      let second ← decimal [s₁, s₂]
      let microsecond ← decimal [f₁, f₂, f₃, f₄, f₅, f₆]
      if h : IsDatetime year month day hour minute second microsecond then
        some ⟨year, month, day, hour, minute, second, microsecond, h⟩
      else none
  | _ => none

/-- `encode_postgres_cursor_timestamp(value)`: a text that is rendered the same
again. -/
def encodePostgresCursorTimestamp (value : String) : Option UtcDatetime :=
  match parseInstant value with
  | some parsed =>
      if decodePostgresCursorTimestamp parsed = value then some parsed else none
  | none => none

theorem isoSeconds_no_point (value : UtcDatetime) : '.' ∉ isoSeconds value := by
  have hdigits (width number : Nat) : '.' ∉ decimalText width number := by
    intro hmem
    have := decimalText_digits width number _ hmem
    revert this
    decide
  simp [isoSeconds, hdigits]

/-- Six digits of microseconds, also when they are zero. -/
theorem decodePostgresCursorTimestamp_toList (value : UtcDatetime) :
    (decodePostgresCursorTimestamp value).toList =
      isoSeconds value ++ '.' :: decimalText 6 value.microsecond ++ ['Z'] := by
  unfold decodePostgresCursorTimestamp renderUtc
  rw [String.toList_ofList]
  by_cases hzero : value.microsecond = 0
  · have hplain : '.' ∉ isoSeconds value ++ [] ++ ['Z'] := by
      simp [isoSeconds_no_point]
    rw [if_pos hzero, if_neg (by simpa using hplain), hzero, List.append_nil,
      List.dropLast_concat]
    rfl
  · rw [if_neg hzero, if_pos (by simp)]

/-- **A rendered datetime is read back.** -/
theorem parseInstant_decode (value : UtcDatetime) :
    parseInstant (decodePostgresCursorTimestamp value) = some value := by
  obtain ⟨hyear, hmonth, -, hhour, hminute, hsecond, hmicro⟩ := value.valid
  have hday := value.day_le
  have y := decimal_decimalText 4 value.year (by omega)
  have m := decimal_decimalText 2 value.month (by omega)
  have d := decimal_decimalText 2 value.day (by omega)
  have h := decimal_decimalText 2 value.hour (by omega)
  have n := decimal_decimalText 2 value.minute (by omega)
  have s := decimal_decimalText 2 value.second (by omega)
  have f := decimal_decimalText 6 value.microsecond (by omega)
  simp only [decimalText, List.nil_append, List.cons_append] at y m d h n s f
  unfold parseInstant
  rw [decodePostgresCursorTimestamp_toList]
  simp only [isoSeconds, decimalText, List.nil_append, List.cons_append, y, m, d, h, n,
    s, f, Option.bind_eq_bind, Option.bind_some, dif_pos value.valid]

theorem encodePostgresCursorTimestamp_decode (value : UtcDatetime) :
    encodePostgresCursorTimestamp (decodePostgresCursorTimestamp value) =
      some value := by
  rw [encodePostgresCursorTimestamp, parseInstant_decode]
  exact if_pos rfl

end ControlPlaneKit.Operations
