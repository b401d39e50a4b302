import Telemetry.Group
import Telemetry.Proofs.Building
import Telemetry.Proofs.Group.Round
import Telemetry.Proofs.Keyed

namespace Telemetry

namespace Channel

/-- The factor that a text gives, where there was another before. -/
def factorAfter (text : Option String) (factor : Option Decimal) : Option Decimal :=
  text.bind fun text => if isNoFactor text then none else (readFactor text).or factor

def factored (text : Option String) (channel : Channel) : Channel :=
  { channel with factor := factorAfter text channel.factor }

/-- The type that a tag gives: the default one if it is unknown. -/
def typeOf (tag : String) : String :=
  if (Kind.ofTag? tag).isSome then Text.strip tag else defaultType

def typed (tag : String) (channel : Channel) : Channel :=
  { channel with type := typeOf tag }

def decodedBy (decoding : Decoding) (channel : Channel) : Channel :=
  { channel with decoding := some decoding }

@[simp] theorem name_factored (text : Option String) (channel : Channel) :
    (channel.factored text).name = channel.name :=
  rfl

@[simp] theorem name_typed (tag : String) (channel : Channel) :
    (channel.typed tag).name = channel.name := by
  simp only [typed]

@[simp] theorem name_decodedBy (decoding : Decoding) (channel : Channel) :
    (channel.decodedBy decoding).name = channel.name :=
  rfl

/-- Is there nothing from the device in the channel? -/
structure IsEmpty (channel : Channel) : Prop where
  raw : channel.raw = none
  scaled : channel.scaled = none
  decoded : channel.decoded = none

theorem IsEmpty.factored {channel : Channel} (hempty : channel.IsEmpty) (text : Option String) :
    (channel.factored text).IsEmpty :=
  ⟨hempty.raw, hempty.scaled, hempty.decoded⟩

theorem IsEmpty.typed {channel : Channel} (hempty : channel.IsEmpty) (tag : String) :
    (channel.typed tag).IsEmpty := by
  unfold Channel.typed
  exact ⟨hempty.raw, hempty.scaled, hempty.decoded⟩

theorem IsEmpty.decodedBy {channel : Channel} (hempty : channel.IsEmpty) (decoding : Decoding) :
    (channel.decodedBy decoding).IsEmpty :=
  ⟨hempty.raw, hempty.scaled, hempty.decoded⟩

theorem factored_typed (text : Option String) (tag : String) (channel : Channel) :
    (channel.typed tag).factored text = (channel.factored text).typed tag := by
  simp only [typed, factored]

theorem decodedBy_factored (decoding : Decoding) (text : Option String) (channel : Channel) :
    (channel.factored text).decodedBy decoding = (channel.decodedBy decoding).factored text := by
  simp only [decodedBy, factored]

theorem decodedBy_typed (decoding : Decoding) (tag : String) (channel : Channel) :
    (channel.typed tag).decodedBy decoding = (channel.decodedBy decoding).typed tag := by
  simp only [decodedBy, typed]

theorem gives_withFactor (channel : Channel) (text : Option String) :
    Log.Gives (channel.withFactor text) (channel.factored text) := by
  cases text with
  | none => exact Log.gives_pure _
  | some text =>
      simp only [withFactor, factored, factorAfter, Option.bind_some]
      split
      · exact Log.gives_pure _
      · cases readFactor text with
        | some factor => exact Log.gives_pure _
        | none => exact (Log.gives_note _).bind (Log.gives_pure _)

theorem gives_withDecoding (channel : Channel) (decoding : Decoding) :
    Log.Gives (channel.withDecoding decoding) (channel.decodedBy decoding) := by
  unfold withDecoding
  split
  · split
    · exact (Log.gives_note _).bind (Log.gives_pure _)
    · exact Log.gives_pure _
  · exact Log.gives_pure _

/-- Applies a function to the channel of that name alone. -/
def onlyAt (name : String) (f : Channel → Channel) (channel : Channel) : Channel :=
  if channel.name = name then f channel else channel

/-- Applies a function to the channel once for each field of its name, with what the field gives. -/
def afterFields {α : Type} (f : α → Channel → Channel) (fields : List (String × α))
    (channel : Channel) : Channel :=
  fields.foldl (fun channel field => onlyAt field.1 (f field.2) channel) channel

section Names

variable {α : Type} {f g : Channel → Channel} {each : α → Channel → Channel}

theorem onlyAt_rec {Holds : Channel → Prop} (hf : ∀ channel, Holds channel → Holds (f channel))
    (name : String) {channel : Channel} (hchannel : Holds channel) : Holds (onlyAt name f channel) := by
  unfold onlyAt
  split
  · exact hf channel hchannel
  · exact hchannel

theorem afterFields_rec (Holds : Channel → Prop)
    (heach : ∀ what channel, Holds channel → Holds (each what channel))
    (fields : List (String × α)) {channel : Channel} (hchannel : Holds channel) :
    Holds (afterFields each fields channel) := by
  induction fields generalizing channel with
  | nil => exact hchannel
  | cons field fields ih => exact ih (onlyAt_rec (heach field.2) field.1 hchannel)

theorem name_onlyAt (hf : ∀ channel, (f channel).name = channel.name) (name : String)
    (channel : Channel) : (onlyAt name f channel).name = channel.name := by
  unfold onlyAt
  split
  · exact hf channel
  · rfl

theorem name_afterFields (heach : ∀ what channel, (each what channel).name = channel.name)
    (fields : List (String × α)) (channel : Channel) :
    (afterFields each fields channel).name = channel.name := by
  induction fields generalizing channel with
  | nil => rfl
  | cons field fields ih => exact (ih _).trans (name_onlyAt (heach field.2) field.1 channel)

theorem onlyAt_comm (hg : ∀ channel, (g channel).name = channel.name)
    (hcomm : ∀ channel, f (g channel) = g (f channel)) (name : String) (channel : Channel) :
    onlyAt name f (g channel) = g (onlyAt name f channel) := by
  simp only [onlyAt, hg]
  split
  · exact hcomm channel
  · rfl

theorem onlyAt_onlyAt_of_ne (hf : ∀ channel, (f channel).name = channel.name)
    (hg : ∀ channel, (g channel).name = channel.name) {name other : String} (hne : name ≠ other)
    (channel : Channel) :
    onlyAt name f (onlyAt other g channel) = onlyAt other g (onlyAt name f channel) := by
  by_cases hname : channel.name = name
  · simp only [onlyAt, hname, hf, if_true, if_false, hne]
  · by_cases hother : channel.name = other
    · simp only [onlyAt, hother, hg, if_true, if_false, hne.symm]
    · simp only [onlyAt, hname, hother, if_false]

theorem afterFields_comm (hg : ∀ channel, (g channel).name = channel.name)
    (hcomm : ∀ what channel, each what (g channel) = g (each what channel))
    (fields : List (String × α)) (channel : Channel) :
    afterFields each fields (g channel) = g (afterFields each fields channel) := by
  refine List.foldl_hom g fun channel field => ?_
  exact onlyAt_comm hg (hcomm field.2) field.1 channel

end Names

end Channel

namespace Group

/-- Does every channel occur once, under its own name? -/
structure WellFormed (group : Group) : Prop where
  nodup : (Keyed.keys group.channels).Nodup
  named : group.Named

def mapChannels (f : Channel → Channel) (group : Group) : Group :=
  { group with channels := group.channels.map fun entry => (entry.1, f entry.2) }

theorem channel?_mapChannels (f : Channel → Channel) (group : Group) (name : String) :
    (group.mapChannels f).channel? name = (group.channel? name).map f :=
  Keyed.lookup_map f group.channels name

theorem mapChannels_mapChannels (f g : Channel → Channel) (group : Group) :
    (group.mapChannels f).mapChannels g = group.mapChannels fun channel => g (f channel) := by
  simp only [mapChannels, List.map_map]
  rfl

theorem mapChannels_comm {f g : Channel → Channel} (hcomm : ∀ channel, g (f channel) = f (g channel))
    (group : Group) :
    (group.mapChannels f).mapChannels g = (group.mapChannels g).mapChannels f := by
  simp only [mapChannels_mapChannels, hcomm]

theorem mapChannels_eq_self {f : Channel → Channel} {group : Group}
    (hf : ∀ entry ∈ group.channels, f entry.2 = entry.2) : group.mapChannels f = group := by
  have hentries : group.channels.map (fun entry => (entry.1, f entry.2)) = group.channels := by
    refine (List.map_congr_left fun entry hentry => ?_).trans group.channels.map_id
    rw [hf entry hentry]
    rfl
  rw [mapChannels, hentries]

theorem WellFormed.name_eq {group : Group} (hgroup : group.WellFormed) {entry : String × Channel}
    (hentry : entry ∈ group.channels) : entry.2.name = entry.1 :=
  hgroup.named entry.1 entry.2 (Keyed.lookup_of_mem hgroup.nodup hentry)

theorem WellFormed.mapChannels {group : Group} (hgroup : group.WellFormed) {f : Channel → Channel}
    (hf : ∀ channel, (f channel).name = channel.name) : (group.mapChannels f).WellFormed := by
  constructor
  · have hkeys : Keyed.keys (group.mapChannels f).channels = Keyed.keys group.channels := by
      simp [Keyed.keys, Group.mapChannels]
    rw [hkeys]
    exact hgroup.nodup
  · intro name channel hchannel
    rw [channel?_mapChannels, Option.map_eq_some_iff] at hchannel
    obtain ⟨before, hbefore, rfl⟩ := hchannel
    rw [hf, hgroup.named name before hbefore]

theorem WellFormed.withChannel_eq {group : Group} (hgroup : group.WellFormed) {name : String}
    {channel : Channel} (hchannel : group.channel? name = some channel) {f : Channel → Channel}
    (hf : (f channel).name = channel.name) :
    group.withChannel (f channel) = group.mapChannels (Channel.onlyAt name f) := by
  have hname : (f channel).name = name := hf.trans (hgroup.named name channel hchannel)
  have hentries : Keyed.adjust name f group.channels =
      group.channels.map fun entry => (entry.1, Channel.onlyAt name f entry.2) := by
    refine List.map_congr_left fun entry hentry => ?_
    simp only [Channel.onlyAt, hgroup.name_eq hentry, beq_iff_eq]
    split <;> rfl
  rw [withChannel, hname, Keyed.put_eq_adjust hgroup.nodup hchannel, hentries, Group.mapChannels]

theorem WellFormed.mapChannels_onlyAt_eq_self {group : Group} (hgroup : group.WellFormed)
    {name : String} (hchannel : group.channel? name = none) (f : Channel → Channel) :
    group.mapChannels (Channel.onlyAt name f) = group := by
  apply mapChannels_eq_self
  intro entry hentry
  rw [Channel.onlyAt, if_neg]
  rw [hgroup.name_eq hentry]
  rintro rfl
  have hfound := Keyed.lookup_of_mem hgroup.nodup hentry
  rw [channel?, hfound] at hchannel
  contradiction

theorem WellFormed.gives_foldlM {α : Type} {step : Group → String × α → Log.Noting Group}
    {each : α → Channel → Channel} (heach : ∀ what channel, (each what channel).name = channel.name)
    (hstep : ∀ group field channel, group.channel? field.1 = some channel →
      Log.Gives (step group field) (group.withChannel (each field.2 channel)))
    (hpass : ∀ group field, group.channel? field.1 = none → Log.Gives (step group field) group)
    (fields : List (String × α)) {group : Group} (hgroup : group.WellFormed) :
    Log.Gives (fields.foldlM step group) (group.mapChannels (Channel.afterFields each fields)) := by
  induction fields generalizing group with
  | nil =>
      rw [mapChannels_eq_self fun _ _ => rfl]
      exact Log.gives_pure group
  | cons field fields ih =>
      have hname := Channel.name_onlyAt (heach field.2) field.1
      have hfirst : Log.Gives (step group field)
          (group.mapChannels (Channel.onlyAt field.1 (each field.2))) := by
        cases hchannel : group.channel? field.1 with
        | none =>
            rw [hgroup.mapChannels_onlyAt_eq_self hchannel]
            exact hpass group field hchannel
        | some channel =>
            rw [← hgroup.withChannel_eq hchannel (heach field.2 channel)]
            exact hstep group field channel hchannel
      have hrest := ih (hgroup.mapChannels hname)
      rw [mapChannels_mapChannels] at hrest
      rw [List.foldlM_cons]
      exact hfirst.bind hrest

/-- What is given field by field, with the names that it is for; nothing if the count is wrong. -/
def perField {α : Type} (group : Group) (values : List α) : List (String × α) :=
  if values.length = group.names.length then group.names.zip values else []

theorem WellFormed.gives_withFactors {group : Group} (hgroup : group.WellFormed)
    (factors : List (Option String)) :
    Log.Gives (group.withFactors factors)
      (group.mapChannels (Channel.afterFields Channel.factored (group.perField factors))) := by
  unfold withFactors perField
  by_cases hcount : factors.length = group.names.length
  · rw [if_pos hcount, if_neg (not_not_intro hcount)]
    apply hgroup.gives_foldlM Channel.name_factored
    · intro group field channel hchannel
      simp only [hchannel]
      exact (channel.gives_withFactor field.2).bind (Log.gives_pure _)
    · intro group field hchannel
      simp only [hchannel]
      exact Log.gives_pure group
  · rw [if_neg hcount, if_pos hcount, mapChannels_eq_self fun _ _ => rfl]
    exact (Log.gives_note _).bind (Log.gives_pure group)

theorem gives_typeFor (group : Group) (name tag : String) :
    Log.Gives (group.typeFor name tag) (Channel.typeOf tag) := by
  unfold typeFor Channel.typeOf
  split
  · exact Log.gives_pure _
  · exact (Log.gives_note _).bind (Log.gives_pure _)

theorem WellFormed.gives_withTypes {group : Group} (hgroup : group.WellFormed) (tags : List String) :
    Log.Gives (group.withTypes tags)
      (group.mapChannels (Channel.afterFields Channel.typed (group.perField tags))) := by
  unfold withTypes perField
  by_cases hcount : tags.length = group.names.length
  · rw [if_pos hcount, if_neg (not_not_intro hcount)]
    apply hgroup.gives_foldlM Channel.name_typed
    · intro group field channel hchannel
      simp only [hchannel]
      exact (group.gives_typeFor field.1 field.2).bind (Log.gives_pure _)
    · intro group field hchannel
      simp only [hchannel]
      exact (group.gives_typeFor field.1 field.2).bind (Log.gives_pure group)
  · rw [if_neg hcount, if_pos hcount, mapChannels_eq_self fun _ _ => rfl]
    exact (Log.gives_note _).bind (Log.gives_pure group)

end Group

end Telemetry
