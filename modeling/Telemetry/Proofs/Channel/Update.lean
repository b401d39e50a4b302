import Telemetry.Channel
import Telemetry.Proofs.CodeTable.Resolution

namespace Telemetry.Channel

/-- A text times a factor. It stays as it is where there is no factor or no product. -/
def scaledText (factor : Option Decimal) (text : String) : String :=
  ((factor.bind (times? text)).map (·.toText)).getD text

/-- The channel with a text from the device, its scaled form and what that was decoded to. -/
def holding (channel : Channel) (raw : String) (decoded : Option String) : Channel :=
  { channel with raw := some raw, scaled := some (scaledText channel.factor raw), decoded }

/-- The channel without anything from the device. -/
def cleared (channel : Channel) : Channel :=
  { channel with raw := none, scaled := none, decoded := none }

theorem run_scale_fst (channel : Channel) (text : String) (journal : Log.Journal) :
    ((channel.scale text).run journal).1 = scaledText channel.factor text := by
  cases hfactor : channel.factor with
  | none =>
      simp only [scale, hfactor]
      rfl
  | some factor =>
      cases hproduct : times? text factor with
      | none =>
          simp only [scale, scaledText, hfactor, hproduct, Option.bind_some]
          rfl
      | some product =>
          simp only [scale, scaledText, hfactor, hproduct, Option.bind_some]
          rfl

inductive Updated (channel : Channel) (tables : CodeTables) (network : Network) :
    Option String → CodeTables → Channel → Network → Prop
  | absent : Updated channel tables network none tables channel network
  | plain {raw : String} {journal : Log.Journal} (hdecoding : channel.decoding = none) :
      Updated channel tables network (some raw) tables
        (channel.holding raw (some (scaledText channel.factor raw))) (network.reported journal)
  | orphaned {raw : String} {decoding : Decoding} {journal : Log.Journal}
      (hdecoding : channel.decoding = some decoding) (htable : tables.lookup decoding.table = none) :
      Updated channel tables network (some raw) tables (channel.holding raw none)
        (network.reported journal)
  | decoded {raw : String} {decoding : Decoding} {table after : CodeTable} {output : Option String}
      {journal : Log.Journal} {network' : Network} (hdecoding : channel.decoding = some decoding)
      (htable : tables.lookup decoding.table = some table)
      (hresolved : table.Resolved (scaledText channel.factor raw) decoding.source decoding.target
        (network.reported journal) after output network') :
      Updated channel tables network (some raw) (tables.put decoding.table after)
        (channel.holding raw output) network'

theorem updated_update (channel : Channel) (tables : CodeTables) (raw : Option String)
    (network : Network) :
    Updated channel tables network raw ((channel.update tables raw).run network).1.1
      ((channel.update tables raw).run network).1.2 ((channel.update tables raw).run network).2 := by
  cases raw with
  | none => exact .absent
  | some raw =>
      simp only [update, Online.run_bind, Online.run_liftM, run_scale_fst, Online.run_pure]
      rcases Option.eq_none_or_eq_some channel.decoding with hdecoding | ⟨decoding, hdecoding⟩
      · have hdecode : channel.decode tables (scaledText channel.factor raw) =
            pure (tables, some (scaledText channel.factor raw)) := by
          simp only [decode, hdecoding]
        rw [hdecode]
        exact .plain hdecoding
      · cases htable : tables.lookup decoding.table with
        | none =>
            have hdecode : channel.decode tables (scaledText channel.factor raw) =
                pure (tables, none) := by
              simp only [decode, hdecoding, htable]
            rw [hdecode]
            exact .orphaned hdecoding htable
        | some table =>
            have hdecode : channel.decode tables (scaledText channel.factor raw) = (do
                let found ←
                  table.resolve (scaledText channel.factor raw) decoding.source decoding.target
                pure (tables.put decoding.table found.1, found.2)) := by
              simp only [decode, hdecoding, htable]
            rw [hdecode]
            exact .decoded hdecoding htable (table.resolved_resolve _ _ _ _)

variable {channel after : Channel} {tables tables' : CodeTables} {network network' : Network}
  {raw : Option String}

theorem Updated.cleared_eq (hupdated : Updated channel tables network raw tables' after network') :
    after.cleared = channel.cleared := by
  cases hupdated <;> rfl

theorem Updated.decoding_eq (hupdated : Updated channel tables network raw tables' after network') :
    after.decoding = channel.decoding := by
  have hdecoding := congrArg decoding hupdated.cleared_eq
  exact hdecoding

theorem Updated.name_eq (hupdated : Updated channel tables network raw tables' after network') :
    after.name = channel.name := by
  have hname := congrArg name hupdated.cleared_eq
  exact hname

theorem Updated.eq_of_none (hupdated : Updated channel tables network none tables' after network') :
    after = channel := by
  cases hupdated
  rfl

theorem Updated.exists_holding {text : String}
    (hupdated : Updated channel tables network (some text) tables' after network') :
    ∃ decoded, after = channel.holding text decoded ∧
      (channel.decoding = none → decoded = some (scaledText channel.factor text)) := by
  cases hupdated with
  | plain => exact ⟨_, rfl, fun _ => rfl⟩
  | orphaned hdecoding | decoded hdecoding =>
      refine ⟨_, rfl, fun hnone => ?_⟩
      rw [hnone] at hdecoding
      contradiction

theorem Updated.lookup_of_ne (hupdated : Updated channel tables network raw tables' after network')
    {table : String} (hother : ∀ decoding, channel.decoding = some decoding → decoding.table ≠ table) :
    tables'.lookup table = tables.lookup table := by
  cases hupdated with
  | absent | plain | orphaned => rfl
  | decoded hdecoding =>
      exact Keyed.lookup_put_of_ne (by simpa using Ne.symm (hother _ hdecoding)) _ _

theorem Updated.keys_eq (hupdated : Updated channel tables network raw tables' after network') :
    Keyed.keys tables' = Keyed.keys tables := by
  cases hupdated with
  | absent | plain | orphaned => rfl
  | decoded _ htable => exact Keyed.keys_put_of_lookup htable _

end Telemetry.Channel
