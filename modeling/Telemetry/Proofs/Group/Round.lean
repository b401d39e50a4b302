import Telemetry.Group
import Telemetry.Proofs.Channel.Update
import Telemetry.Proofs.Network

namespace Telemetry.Group

theorem channel?_withChannel (group : Group) (channel : Channel) (name : String) :
    (group.withChannel channel).channel? name =
      if name == channel.name then some channel else group.channel? name :=
  Keyed.lookup_put channel.name name channel group.channels

/-- Do the channels stand under their own names? -/
def Named (group : Group) : Prop :=
  ∀ name channel, group.channel? name = some channel → channel.name = name

/-- Is one of the group's channels decoded by the table of that name? -/
def DecodesBy (group : Group) (table : String) : Prop :=
  ∃ name channel decoding, group.channel? name = some channel ∧
    channel.decoding = some decoding ∧ decoding.table = table

theorem named_withChannel {group : Group} (hnamed : group.Named) (channel : Channel) :
    (group.withChannel channel).Named := by
  intro name found hfound
  rw [channel?_withChannel] at hfound
  split at hfound
  · rename_i hname
    obtain rfl := Option.some.inj hfound
    exact (eq_of_beq hname).symm
  · exact hnamed name found hfound

theorem decodesBy_of_withChannel {group : Group} {name table : String} {channel after : Channel}
    (hchannel : group.channel? name = some channel) (hdecoding : after.decoding = channel.decoding)
    (hdecodes : (group.withChannel after).DecodesBy table) : group.DecodesBy table := by
  obtain ⟨other, found, decoding, hfound, hdecoding', htable⟩ := hdecodes
  rw [channel?_withChannel] at hfound
  split at hfound
  · obtain rfl := Option.some.inj hfound
    exact ⟨name, channel, decoding, hchannel, hdecoding ▸ hdecoding', htable⟩
  · exact ⟨other, found, decoding, hfound, hdecoding', htable⟩

/-- The last text among the fields of a channel. -/
def lastField (fields : List (String × Option String)) (name : String) : Option String :=
  (fields.filterMap fun (other, field) => if other = name then field else none).getLast?

theorem lastField_cons_of_ne {other name : String} (hne : other ≠ name) (field : Option String)
    (fields : List (String × Option String)) :
    lastField ((other, field) :: fields) name = lastField fields name := by
  simp [lastField, hne]

theorem lastField_cons_none (name : String) (fields : List (String × Option String)) :
    lastField ((name, none) :: fields) name = lastField fields name := by
  simp [lastField]

theorem lastField_cons_some (name text : String) (fields : List (String × Option String)) :
    lastField ((name, some text) :: fields) name = (lastField fields name).or (some text) := by
  simp [lastField, List.getLast?_cons]

/-- The ways of taking the fields of a line in. -/
inductive TakenIn : List (String × Option String) → CodeTables → Group → Network →
    CodeTables → Group → Network → Prop
  | done {tables : CodeTables} {group : Group} {network : Network} :
      TakenIn [] tables group network tables group network
  | passed {name : String} {field : Option String} {fields : List (String × Option String)}
      {tables tables' : CodeTables} {group group' : Group} {network network' : Network}
      (hchannel : group.channel? name = none)
      (hrest : TakenIn fields tables group network tables' group' network') :
      TakenIn ((name, field) :: fields) tables group network tables' group' network'
  | updated {name : String} {field : Option String} {fields : List (String × Option String)}
      {tables tables₁ tables' : CodeTables} {group group' : Group} {channel after : Channel}
      {network network₁ network' : Network} (hchannel : group.channel? name = some channel)
      (hupdated : channel.Updated tables network field tables₁ after network₁)
      (hrest : TakenIn fields tables₁ (group.withChannel after) network₁ tables' group' network') :
      TakenIn ((name, field) :: fields) tables group network tables' group' network'

theorem takenIn_takeIn (fields : List (String × Option String)) (tables : CodeTables)
    (group : Group) (network : Network) :
    TakenIn fields tables group network ((takeIn fields tables group).run network).1.1
      ((takeIn fields tables group).run network).1.2 ((takeIn fields tables group).run network).2 := by
  induction fields generalizing tables group network with
  | nil => exact .done
  | cons field fields ih =>
      obtain ⟨name, field⟩ := field
      cases hchannel : group.channel? name with
      | none =>
          simp only [takeIn, hchannel]
          exact .passed hchannel (ih tables group network)
      | some channel =>
          simp only [takeIn, hchannel, Online.run_bind]
          exact .updated hchannel (channel.updated_update tables field network) (ih _ _ _)

namespace TakenIn

variable {fields : List (String × Option String)} {tables tables' : CodeTables}
  {group group' : Group} {network network' : Network}

theorem eq_with_channels
    (htaken : TakenIn fields tables group network tables' group' network') :
    group' = { group with channels := group'.channels } := by
  induction htaken with
  | done => rfl
  | passed _ _ ih | updated _ _ _ ih => exact ih

theorem named (htaken : TakenIn fields tables group network tables' group' network')
    (hnamed : group.Named) : group'.Named := by
  induction htaken with
  | done => exact hnamed
  | passed _ _ ih => exact ih hnamed
  | updated _ _ _ ih => exact ih (named_withChannel hnamed _)

theorem lookup_of_not_decodesBy
    (htaken : TakenIn fields tables group network tables' group' network') {table : String}
    (hother : ¬group.DecodesBy table) : tables'.lookup table = tables.lookup table := by
  induction htaken with
  | done => rfl
  | passed _ _ ih => exact ih hother
  | updated hchannel hupdated _ ih =>
      rw [ih fun hdecodes =>
        hother (decodesBy_of_withChannel hchannel hupdated.decoding_eq hdecodes)]
      exact hupdated.lookup_of_ne fun decoding hdecoding htable =>
        hother ⟨_, _, decoding, hchannel, hdecoding, htable⟩

theorem keys_eq (htaken : TakenIn fields tables group network tables' group' network') :
    Keyed.keys tables' = Keyed.keys tables := by
  induction htaken with
  | done => rfl
  | passed _ _ ih => exact ih
  | updated _ hupdated _ ih => exact ih.trans hupdated.keys_eq

theorem channel?_eq_none (htaken : TakenIn fields tables group network tables' group' network')
    (hnamed : group.Named) {name : String} (hchannel : group.channel? name = none) :
    group'.channel? name = none := by
  induction htaken with
  | done => exact hchannel
  | passed _ _ ih => exact ih hnamed hchannel
  | @updated other _ _ _ _ _ group _ found after _ _ _ hfound hupdated _ ih =>
      have hafter : after.name = other := hupdated.name_eq.trans (hnamed _ _ hfound)
      refine ih (named_withChannel hnamed _) ?_
      rw [channel?_withChannel, hafter, if_neg, hchannel]
      intro hname
      rw [eq_of_beq hname, hfound] at hchannel
      contradiction

theorem channel?_eq (htaken : TakenIn fields tables group network tables' group' network')
    (hnamed : group.Named) {name : String} {channel : Channel}
    (hchannel : group.channel? name = some channel) :
    (lastField fields name = none ∧ group'.channel? name = some channel) ∨
      ∃ raw decoded, lastField fields name = some raw ∧
        group'.channel? name = some (channel.holding raw decoded) ∧
        (channel.decoding = none → decoded = some (Channel.scaledText channel.factor raw)) := by
  induction htaken generalizing channel with
  | done => exact .inl ⟨rfl, hchannel⟩
  | @passed other field _ _ _ _ _ _ _ hother hrest ih =>
      have hne : other ≠ name := by
        rintro rfl
        simp [hother] at hchannel
      rw [lastField_cons_of_ne hne]
      exact ih hnamed hchannel
  | @updated other field fields _ _ _ group _ found after _ _ _ hfound hupdated hrest ih =>
      have hafter : after.name = other := hupdated.name_eq.trans (hnamed _ _ hfound)
      by_cases hname : other = name
      · subst hname
        obtain rfl := Option.some.inj (hchannel.symm.trans hfound)
        have hput : (group.withChannel after).channel? other = some after := by
          rw [channel?_withChannel, hafter, if_pos (beq_self_eq_true other)]
        -- what the later fields leave of it is the channel as it is after this field
        have hlater := ih (named_withChannel hnamed _) hput
        cases field with
        | none =>
            rw [hupdated.eq_of_none] at hlater
            rwa [lastField_cons_none]
        | some text =>
            obtain ⟨decoded, rfl, hdecoded⟩ := hupdated.exists_holding
            rw [lastField_cons_some]
            rcases hlater with ⟨hlast, hgroup⟩ | ⟨raw, decoded', hlast, hgroup, hdecoded'⟩
            · exact .inr ⟨text, decoded, by rw [hlast]; rfl, hgroup, hdecoded⟩
            · exact .inr ⟨raw, decoded', by rw [hlast]; rfl, hgroup, hdecoded'⟩
      · have hkept : (group.withChannel after).channel? name = some channel := by
          rw [channel?_withChannel, hafter, if_neg (by simpa using Ne.symm hname), hchannel]
        rw [lastField_cons_of_ne hname]
        exact ih (named_withChannel hnamed _) hkept

end TakenIn

theorem extract_eq_some_iff {layout : Layout} {count : Nat} {page : String}
    {fields : List (Option String)} :
    extract layout count page = some fields ↔
      ∃ before line after, (Text.lines page).take maxLines = before ++ line :: after ∧
        layout.fields line = some fields ∧ count ≤ fields.length ∧
        ∀ earlier ∈ before, ∀ short, layout.fields earlier = some short → short.length < count := by
  simp only [extract, List.findSome?_eq_some_iff, Option.filter_eq_some_iff,
    Option.filter_eq_none_iff, decide_eq_true_eq, Nat.not_le, and_assoc]

theorem extract_isSome_iff {layout : Layout} {count : Nat} {page : String} :
    (extract layout count page).isSome ↔
      ∃ line ∈ (Text.lines page).take maxLines, ∃ fields, layout.fields line = some fields ∧
        count ≤ fields.length := by
  rw [extract, List.findSome?_isSome_iff]
  simp only [Option.isSome_iff_exists, Option.filter_eq_some_iff, decide_eq_true_eq]

theorem layout?_isSome_iff {group : Group} :
    group.layout?.isSome ↔ group.separator.isSome ≠ group.pattern.isSome := by
  unfold layout?
  cases group.separator <;> cases group.pattern <;> simp

inductive Rounded (group : Group) (tables : CodeTables) (network : Network) :
    CodeTables → Group → Bool → Network → Prop
  | fresh {journal : Log.Journal} (hfresh : group.isStale network.reading = false) :
      Rounded group tables network tables group false
        ((network.readIf group.cached).reported journal)
  | unlaid {journal : Log.Journal} (hstale : group.isStale network.reading = true)
      (hlayout : group.layout? = none) :
      Rounded group tables network tables group false
        ((network.readIf group.cached).reported journal)
  | unlocated {journal : Log.Journal} (hstale : group.isStale network.reading = true)
      (hurl : group.url = none) :
      Rounded group tables network tables group false
        ((network.readIf group.cached).reported journal)
  | unanswered {url : String} {journal : Log.Journal}
      (hstale : group.isStale network.reading = true) (hurl : group.url = some url)
      (hpage : (network.answerFor url).page = none) :
      Rounded group tables network tables group false
        (((network.readIf group.cached).asked url group.timeout).reported journal)
  | unmatched {layout : Layout} {url page : String} {journal : Log.Journal}
      (hstale : group.isStale network.reading = true) (hlayout : group.layout? = some layout)
      (hurl : group.url = some url) (hpage : (network.answerFor url).page = some page)
      (hfields : extract layout group.names.length page = none) :
      Rounded group tables network tables group false
        (((network.readIf group.cached).asked url group.timeout).reported journal)
  | taken {layout : Layout} {url page : String} {fields : List (Option String)}
      {tables' : CodeTables} {group' : Group} {network' : Network}
      (hstale : group.isStale network.reading = true) (hlayout : group.layout? = some layout)
      (hurl : group.url = some url) (hpage : (network.answerFor url).page = some page)
      (hfields : extract layout group.names.length page = some fields)
      (htaken : TakenIn (group.names.zip fields) tables group
        ((network.readIf group.cached).asked url group.timeout) tables' group' network') :
      Rounded group tables network tables' { group' with lastFetch := network'.reading } true
        network'.read

theorem rounded_fetchPage {group : Group} {layout : Layout} {url : String} {network : Network}
    (tables : CodeTables) (hstale : group.isStale network.reading = true)
    (hlayout : group.layout? = some layout) (hurl : group.url = some url) :
    Rounded group tables network
      ((group.fetchPage tables layout url).run (network.readIf group.cached)).1.1.1
      ((group.fetchPage tables layout url).run (network.readIf group.cached)).1.1.2
      ((group.fetchPage tables layout url).run (network.readIf group.cached)).1.2
      ((group.fetchPage tables layout url).run (network.readIf group.cached)).2 := by
  simp only [fetchPage, Online.run_bind, Online.run_fetch, Network.answerFor_readIf]
  cases hpage : (network.answerFor url).page with
  | none => exact .unanswered hstale hurl hpage
  | some page =>
      simp only [takePage]
      cases hfields : extract layout group.names.length page with
      | none => exact .unmatched hstale hlayout hurl hpage hfields
      | some fields => exact .taken hstale hlayout hurl hpage hfields (takenIn_takeIn _ _ _ _)

theorem rounded_round (group : Group) (tables : CodeTables) (network : Network) :
    Rounded group tables network ((group.round tables).run network).1.1.1
      ((group.round tables).run network).1.1.2 ((group.round tables).run network).1.2
      ((group.round tables).run network).2 := by
  simp only [round, Online.run_bind, run_isStaleNow]
  cases hstale : group.isStale network.reading with
  | false => exact .fresh hstale
  | true =>
      cases hlayout : group.layout? with
      | none => exact .unlaid hstale hlayout
      | some layout =>
          cases hurl : group.url with
          | none => exact .unlocated hstale hurl
          | some url => exact rounded_fetchPage tables hstale hlayout hurl

namespace Rounded

variable {group group' : Group} {tables tables' : CodeTables} {network network' : Network}
  {changed : Bool}

theorem eq_of_failed (hrounded : Rounded group tables network tables' group' false network') :
    tables' = tables ∧ group' = group := by
  cases hrounded <;> exact ⟨rfl, rfl⟩

theorem succeeded_iff (hrounded : Rounded group tables network tables' group' changed network') :
    changed = true ↔
      group.isStale network.reading = true ∧ ∃ layout url page, group.layout? = some layout ∧
        group.url = some url ∧ (network.answerFor url).page = some page ∧
        (extract layout group.names.length page).isSome := by
  cases hrounded with
  | fresh hfresh => simp [hfresh]
  | unlaid _ hlayout => simp [hlayout]
  | unlocated _ hurl => simp [hurl]
  | unanswered _ hurl hpage => simp [hurl, hpage]
  | unmatched _ hlayout hurl hpage hfields => simp [hlayout, hurl, hpage, hfields]
  | taken hstale hlayout hurl hpage hfields => simp [hstale, hlayout, hurl, hpage, hfields]

end Rounded

end Telemetry.Group
