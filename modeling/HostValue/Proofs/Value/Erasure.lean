import HostValue.Json.Writer
import HostValue.Proofs.Outcome
import HostValue.Proofs.Value.Entries
import HostValue.Proofs.Value.Handles

/-!
# Values without hosted parts

The value that arises when every hosted value gives way to its string form. What an encoder writes of
a value is what it writes of that one, as long as it treats a hosted value as its string form and
takes what a collection holds one after the other.
-/

namespace HostValue

mutual

/-- The value with the humane string form of every hosted value in its place, if they all have one. -/
def Value.erase? : Value → Option Value
  | .null => some .null
  | .bool flag => some (.bool flag)
  | .integer number => some (.integer number)
  | .float number => some (.float number)
  | .string text => some (.string text)
  | .vector items => (eraseItems? items).map .vector
  | .object entries => (eraseEntries? entries).map .object
  | .hosted _ payload =>
    match Mode.humane.textForm? payload with
    | some (.ok text) => some (.string text)
    | _ => none
termination_by structural value => value

def eraseItems? : List Value → Option (List Value)
  | [] => some []
  | item :: rest =>
    match item.erase?, eraseItems? rest with
    | some erased, some others => some (erased :: others)
    | _, _ => none
termination_by structural items => items

def eraseEntries? : List (String × Value) → Option (List (String × Value))
  | [] => some []
  | (key, value) :: rest =>
    match value.erase?, eraseEntries? rest with
    | some erased, some others => some ((key, erased) :: others)
    | _, _ => none
termination_by structural entries => entries

end

/-! ### Payloads in texts -/

namespace Payload

def HasText (payload : Payload) : Prop :=
  ∃ text, Mode.humane.textForm? payload = some (.ok text)

inductive TextFails (payload : Payload) : DecodeError → Prop where
  | unoffered (unoffered : Mode.humane.textForm? payload = none) :
      TextFails payload
        (.refused ("cannot serialize " ++ payload.typeName ++ " value: it has no string form"))
  | failing {error : ValueError} (fails : Mode.humane.textForm? payload = some (.error error)) :
      TextFails payload (.refused error.message)

theorem TextFails.not_hasText {payload : Payload} {error : DecodeError}
    (fails : payload.TextFails error) : ¬payload.HasText := by
  rintro ⟨text, form⟩
  cases fails with
  | unoffered unoffered =>
      rw [unoffered] at form
      cases form
  | failing fails =>
      rw [fails] at form
      cases form

theorem TextFails.unique {payload : Payload} {error other : DecodeError}
    (fails : payload.TextFails error) (failsEither : payload.TextFails other) : error = other := by
  cases fails with
  | unoffered unoffered =>
      cases failsEither with
      | unoffered => rfl
      | failing fails =>
          rw [unoffered] at fails
          cases fails
  | failing fails =>
      cases failsEither with
      | unoffered unoffered =>
          rw [unoffered] at fails
          cases fails
      | failing failsEither =>
          rw [fails] at failsEither
          cases failsEither
          rfl

end Payload

/-! ### Encoders -/

/-- An encoder writes every scalar, a hosted value as its string form, and collections from what it
writes of their values one after the other. -/
structure Encoder {α : Type} (encode : Value → Except DecodeError α) : Prop where
  scalar (value : Value) (isScalar : value.kind.isScalar = true) :
    ∃ result, encode value = .ok result
  hosted (identity : Nat) (payload : Payload) :
    encode (.hosted identity payload) =
      payload.encodedText >>= fun text => encode (.string text)
  vector : ∃ join : List α → α, ∀ items, encode (.vector items) = (items.mapM encode).map join
  object : ∃ join : List String → List α → α, ∀ entries : Entries,
    encode (.object entries) = ((entries.map Prod.snd).mapM encode).map (join entries.keys)

/-- What comes out of a source is what comes out of its erasure, if it has one, and otherwise the
error of the first payload without string form. -/
inductive Factors {σ α : Type} (encode : σ → Except DecodeError α) (source : σ) (payloads : List Payload) :
    Option σ → Prop where
  | erased {erased : σ} {result : α}
      (written : FirstFailure Payload.HasText Payload.TextFails payloads none)
      (own : encode source = .ok result) (same : encode erased = .ok result) :
      Factors encode source payloads (some erased)
  | refused {error : DecodeError}
      (first : FirstFailure Payload.HasText Payload.TextFails payloads (some error))
      (fails : encode source = .error error) : Factors encode source payloads none

variable {α : Type} {encode : Value → Except DecodeError α}

private theorem factors_scalar (encoder : Encoder encode) {value : Value}
    (isScalar : value.kind.isScalar = true) : Factors encode value value.payloads value.erase? := by
  obtain ⟨result, written⟩ := encoder.scalar value isScalar
  cases value with
  | null | bool | integer | float | string => exact .erased .nil written written
  | vector | object | hosted => cases isScalar

private theorem factors_hosted (encoder : Encoder encode) (identity : Nat) (payload : Payload) :
    Factors encode (.hosted identity payload) [payload] (Value.hosted identity payload).erase? := by
  have own := encoder.hosted identity payload
  unfold Payload.encodedText at own
  unfold Value.erase?
  cases form : Mode.humane.textForm? payload with
  | none =>
      rw [form] at own
      exact .refused (.here (.unoffered form) []) own
  | some outcome =>
      rw [form] at own
      cases outcome with
      | error error => exact .refused (.here (.failing form) []) own
      | ok text =>
          obtain ⟨result, written⟩ := encoder.scalar (.string text) rfl
          exact .erased (.later ⟨text, form⟩ .nil) (own.trans written) written

private theorem factors_items {items : List Value}
    (factors : ∀ item ∈ items, Factors encode item item.payloads item.erase?) :
    Factors (List.mapM encode) items (itemPayloads items) (eraseItems? items) := by
  induction items with
  | nil => exact .erased .nil rfl rfl
  | cons item rest ih =>
      obtain ⟨first, others⟩ := List.forall_mem_cons.mp factors
      have more := ih others
      rw [eraseItems?, itemPayloads]
      generalize item.erase? = erasure at first
      generalize eraseItems? rest = erasures at more
      cases first with
      | refused firstFailure fails =>
          exact .refused (firstFailure.append_of_some _) (mapM_cons_error fails rest)
      | erased written own same =>
          cases more with
          | refused firstFailure fails =>
              exact .refused (written.append firstFailure) (mapM_cons_later_error own fails)
          | erased othersWritten othersOwn othersSame =>
              exact .erased (written.append othersWritten) (mapM_cons_ok own othersOwn)
                (mapM_cons_ok same othersSame)

theorem eraseEntries?_eq (entries : Entries) :
    eraseEntries? entries =
      (eraseItems? (entries.map Prod.snd)).map fun values => entries.keys.zip values := by
  induction entries with
  | nil => rfl
  | cons entry rest ih =>
      obtain ⟨key, value⟩ := entry
      rw [eraseEntries?, ih, List.map_cons, eraseItems?]
      cases value.erase? with
      | none => rfl
      | some erased => cases eraseItems? (rest.map Prod.snd) <;> rfl

private theorem length_eraseItems? {items erased : List Value}
    (erases : eraseItems? items = some erased) :
    erased.length = items.length := by
  induction items generalizing erased with
  | nil =>
      cases erases
      rfl
  | cons item rest ih =>
      rw [eraseItems?] at erases
      split at erases
      · next first others _ restErases =>
        cases erases
        rw [List.length_cons, List.length_cons, ih restErases]
      · cases erases

private theorem entryPayloads_eq (entries : Entries) :
    entryPayloads entries = itemPayloads (entries.map Prod.snd) := by
  induction entries with
  | nil => rfl
  | cons entry rest ih =>
      rw [entryPayloads, ih, List.map_cons, itemPayloads]

theorem Factors.map {σ τ α β : Type} {encode : σ → Except DecodeError α}
    {others : τ → Except DecodeError β} {source : σ} {outer : τ} {payloads : List Payload}
    {erasure : Option σ} (factors : Factors encode source payloads erasure) (wrap : σ → τ)
    (join : α → β) (own : others outer = (encode source).map join)
    (same : ∀ erased, erasure = some erased →
      others (wrap erased) = (encode erased).map join) :
    Factors others outer payloads (erasure.map wrap) := by
  cases factors with
  | refused first fails =>
      rw [fails] at own
      exact .refused first own
  | erased written result resultSame =>
      have wrapped := same _ rfl
      rw [result] at own
      rw [resultSame] at wrapped
      exact .erased written own wrapped

theorem factors (encoder : Encoder encode) (value : Value) :
    Factors encode value value.payloads value.erase? := by
  induction value using Value.inductionOnParts with
  | leaf value leaf =>
      cases value with
      | hosted identity payload => exact factors_hosted encoder identity payload
      | vector | object => cases leaf
      | null | bool | integer | float | string => exact factors_scalar encoder rfl
  | vector items ih =>
      obtain ⟨join, encoded⟩ := encoder.vector
      exact (factors_items ih).map .vector join (encoded items) fun erased _ => encoded erased
  | object entries ih =>
      obtain ⟨join, encoded⟩ := encoder.object
      rw [Value.erase?, eraseEntries?_eq, Option.map_map, Value.payloads, entryPayloads_eq]
      have values : ∀ value ∈ entries.map Prod.snd,
          Factors encode value value.payloads value.erase? := by
        intro value member
        obtain ⟨⟨key, found⟩, present, rfl⟩ := List.mem_map.mp member
        exact ih key found present
      refine (factors_items values).map _ (join entries.keys) (encoded entries) ?_
      intro erased erases
      have lengths := length_eraseItems? erases
      rw [List.length_map, ← Entries.length_keys] at lengths
      rw [Function.comp_apply, encoded, List.map_snd_zip (Nat.le_of_eq lengths), Entries.keys,
        List.map_fst_zip (Nat.le_of_eq lengths.symm)]

end HostValue
