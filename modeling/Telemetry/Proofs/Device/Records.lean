import Telemetry.Device.Build
import Telemetry.Proofs.Building.Records

namespace Telemetry

namespace Template

theorem appends_expand (definitions : Definitions) (template : String) (context : Option String) :
    Log.Appends (expand definitions template context) :=
  (Log.appends_noteAll _).bind fun _ => Log.appends_pure _

theorem appends_resolve (definitions : Definitions) (host : Option String) :
    Log.Appends (resolve definitions host) := by
  unfold resolve
  extract_lets
  split
  · refine (Log.appends_note _).bind fun _ => Log.appends_mapM (fun entry => ?_) _
    exact (appends_expand _ _ _).bind fun _ => Log.appends_pure _
  · refine Log.appends_mapM (fun entry => ?_) _
    exact (appends_expand _ _ _).bind fun _ => Log.appends_pure _

end Template

namespace Refresh

theorem appends_interval (text : Option String) (default : Int) (context : String) :
    Log.Appends (interval text default context) := by
  unfold interval
  split
  · exact Log.appends_pure _
  · split
    · exact Log.appends_pure _
    · exact Log.appends_note_pure _ _

theorem appends_cache (text : Option String) (default : Bool) (context : String) :
    Log.Appends (cache text default context) := by
  unfold cache
  split
  · exact Log.appends_pure _
  · split
    · exact Log.appends_pure _
    · exact Log.appends_note_pure _ _

end Refresh

namespace Building

theorem appends_pattern (source context : String) : Appends (pattern source context) := by
  unfold pattern
  split
  · exact appends_pure _
  · exact appends_note_pure _ _
  · exact appends_throw _

theorem appends_url (text : String) : Appends (url text) := by
  unfold url
  split
  · exact appends_pure _
  · exact appends_throw _

end Building

open Building

namespace Probe

theorem appends_ofProperties (properties : Properties) (name : String) :
    Appends (ofProperties properties name) := by
  have hpattern : Appends (patternOf (properties.lookup "test.expr") name) := by
    unfold patternOf
    split
    · exact appends_pure _
    · split
      · exact appends_pure _
      · exact appends_pattern _ _
  have hport : Log.Appends (portOf (properties.lookup "test.port") name) := by
    unfold portOf
    split
    · exact Log.appends_pure _
    · split
      · exact Log.appends_pure _
      · exact Log.appends_note_pure _ _
  exact hpattern.bind fun _ => (appends_liftM hport).bind fun _ => appends_pure _

end Probe

namespace Channel

theorem appends_withFactor (channel : Channel) (text : Option String) :
    Log.Appends (channel.withFactor text) := by
  unfold withFactor
  split
  · exact Log.appends_pure _
  · split
    · exact Log.appends_pure _
    · split
      · exact Log.appends_pure _
      · exact Log.appends_note_pure _ _

theorem appends_withDecoding (channel : Channel) (decoding : Decoding) :
    Log.Appends (channel.withDecoding decoding) := by
  unfold withDecoding
  split
  · split
    · exact Log.appends_note_pure _ _
    · exact Log.appends_pure _
  · exact Log.appends_pure _

end Channel

namespace Group

theorem appends_withFactors (group : Group) (factors : List (Option String)) :
    Log.Appends (group.withFactors factors) := by
  unfold withFactors
  split
  · exact Log.appends_note_pure _ _
  · refine Log.appends_foldlM (fun group field => ?_) _ _
    dsimp only
    split
    · exact (Channel.appends_withFactor _ _).bind fun _ => Log.appends_pure _
    · exact Log.appends_pure _

theorem appends_typeFor (group : Group) (name tag : String) :
    Log.Appends (group.typeFor name tag) := by
  unfold typeFor
  split
  · exact Log.appends_pure _
  · exact Log.appends_note_pure _ _

theorem appends_withTypes (group : Group) (tags : List String) :
    Log.Appends (group.withTypes tags) := by
  unfold withTypes
  split
  · exact Log.appends_note_pure _ _
  · refine Log.appends_foldlM (fun group field => ?_) _ _
    refine (appends_typeFor _ _ _).bind fun type => ?_
    split
    · exact Log.appends_pure _
    · exact Log.appends_pure _

end Group

namespace Device

variable (defaults : Defaults) (device : Device)

theorem appends_enter (group : Group) : Log.Appends (device.enter group) := by
  refine Log.appends_foldlM (fun device name => ?_) _ _
  dsimp only
  split
  · exact Log.appends_note_pure _ _
  · exact Log.appends_pure _

theorem appends_declare (property : String × String) :
    Log.Appends (device.declare defaults property) := by
  unfold declare
  split
  · unfold declareGroup
    dsimp only
    split
    · exact Log.appends_note_pure _ _
    · exact appends_enter _ _
  · exact Log.appends_pure _
  · exact Log.appends_pure _
  · exact Log.appends_pure _

theorem appends_expandUrl (template context : String) :
    Appends (device.expandUrl template context) := by
  refine (appends_liftM (Template.appends_expand _ _ _)).bind fun url => ?_
  dsimp only
  split
  · exact appends_note_pure _ _
  · refine (appends_url _).bind fun found => ?_
    split
    · exact appends_note_pure _ _
    · exact appends_pure _

theorem appends_attachExpr (table : CodeTable) (key value : String) :
    Appends (attachExpr table key value) := by
  unfold attachExpr
  split
  · exact appends_note_pure _ _
  · refine (appends_pattern _ _).bind fun pattern => ?_
    split
    · exact appends_pure _
    · dsimp only
      split
      · exact appends_note_pure _ _
      · exact appends_pure _

theorem appends_attachTable (table : CodeTable) (field : TableField) (key value : String) :
    Appends (attachTable defaults device table field key value) := by
  cases field with
  | url => exact (appends_expandUrl _ _ _).bind fun _ => appends_pure _
  | types => exact appends_pure _
  | expr => exact appends_attachExpr _ _ _
  | refresh => exact (appends_liftM (Refresh.appends_interval _ _ _)).bind fun _ => appends_pure _
  | cache => exact (appends_liftM (Refresh.appends_cache _ _ _)).bind fun _ => appends_pure _

theorem appends_attachToTables (property : String × String) :
    Appends (attachToTables defaults device property) := by
  unfold attachToTables
  split
  · split
    · exact (appends_attachTable _ _ _ _ _ _).bind fun _ => appends_pure _
    · exact appends_pure _
  · exact appends_note_pure _ _
  · exact appends_pure _

theorem appends_attachGroup (group : Group) (field : GroupField) (key value : String) :
    Appends (attachGroup defaults device group field key value) := by
  cases field with
  | vars => exact appends_pure _
  | factors => exact appends_liftM (group.appends_withFactors _)
  | types => exact appends_liftM (group.appends_withTypes _)
  | split =>
      refine (appends_pattern _ _).bind fun separator => ?_
      cases separator with
      | none => exact appends_pure _
      | some separator => exact appends_pure _
  | expr => exact (appends_pattern _ _).bind fun _ => appends_pure _
  | url => exact (appends_expandUrl _ _ _).bind fun _ => appends_pure _
  | refresh => exact (appends_liftM (Refresh.appends_interval _ _ _)).bind fun _ => appends_pure _
  | cache => exact (appends_liftM (Refresh.appends_cache _ _ _)).bind fun _ => appends_pure _

theorem appends_bind (group : Group) (key channel value : String) :
    Log.Appends (device.bind group key channel value) := by
  unfold Device.bind
  split
  · split
    · exact Log.appends_note_pure _ _
    · split
      · exact Log.appends_note_pure _ _
      · exact (Channel.appends_withDecoding _ _).bind fun _ => Log.appends_pure _
  · exact Log.appends_note_pure _ _

theorem appends_attachToGroups (property : String × String) :
    Appends (attachToGroups defaults device property) := by
  unfold attachToGroups
  dsimp only
  split
  · split
    · exact (appends_attachGroup _ _ _ _ _ _).bind fun _ => appends_pure _
    · exact appends_note_pure _ _
  · split
    · exact (appends_liftM (appends_bind _ _ _ _ _)).bind fun _ => appends_pure _
    · exact appends_note_pure _ _
  · exact appends_note_pure _ _
  · exact appends_note_pure _ _
  · exact appends_note_pure _ _
  · exact appends_pure _

theorem appends_blank (properties : Properties) (host : Option String) (timeout : Int) :
    Appends (blank properties host timeout) := by
  refine (appends_liftM (Log.appends_noteAll _)).bind fun _ => ?_
  refine (appends_liftM (Template.appends_resolve _ _)).bind fun definitions => ?_
  exact (Probe.appends_ofProperties _ _).bind fun _ => appends_pure _

theorem appends_defaults : Log.Appends device.defaults :=
  (Refresh.appends_interval _ _ _).bind fun _ =>
    (Refresh.appends_cache _ _ _).bind fun _ => Log.appends_pure _

end Device

end Telemetry
