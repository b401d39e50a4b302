import Telemetry.Proofs.Group.Channels
import Telemetry.Proofs.Pattern.Literal
import Telemetry.Proofs.Text.Blank

namespace Telemetry.Group

/-- Has every field a channel under its own name? -/
structure Complete (group : Group) : Prop where
  named : group.Named
  channel : ∀ name ∈ group.names, ∃ channel, group.channel? name = some channel

theorem complete_declare (name : String) (names : List String) (refresh : Int) (cached : Bool)
    (timeout : Int) : (declare name names refresh cached timeout).Complete := by
  have hchannel : ∀ key, (declare name names refresh cached timeout).channel? key =
      (names.map fun name => (name, { name := name : Channel })).reverse.lookup key :=
    Keyed.lookup_ofList _
  constructor
  · intro key channel hfound
    have hmem := Keyed.mem_of_lookup_ofList hfound
    simp only [List.mem_map, Prod.mk.injEq] at hmem
    obtain ⟨_, -, rfl, rfl⟩ := hmem
    rfl
  · intro key hkey
    rw [hchannel, ← Option.isSome_iff_exists, List.lookup_isSome_iff]
    exact ⟨(key, { name := key }), List.mem_reverse.mpr (List.mem_map_of_mem hkey),
      beq_self_eq_true key⟩

theorem Complete.mapChannels {group : Group} (hgroup : group.Complete) {f : Channel → Channel}
    (hf : ∀ channel, (f channel).name = channel.name) : (group.mapChannels f).Complete := by
  constructor
  · intro name channel hchannel
    rw [channel?_mapChannels, Option.map_eq_some_iff] at hchannel
    obtain ⟨found, hfound, rfl⟩ := hchannel
    rw [hf, hgroup.named name found hfound]
  · intro name hname
    obtain ⟨channel, hchannel⟩ := hgroup.channel name hname
    exact ⟨f channel, by rw [channel?_mapChannels, hchannel, Option.map_some]⟩

theorem Rounded.complete {group group' : Group} {tables tables' : CodeTables}
    {network network' : Network} {changed : Bool}
    (hrounded : Rounded group tables network tables' group' changed network')
    (hgroup : group.Complete) : group'.Complete := by
  cases hrounded with
  | fresh | unlaid | unlocated | unanswered | unmatched => exact hgroup
  | @taken _ _ _ _ _ group' _ _ _ _ _ _ htaken =>
      refine ⟨htaken.named hgroup.named, fun name hname => ?_⟩
      have hnames : group'.names = group.names := by rw [htaken.eq_with_channels]
      obtain ⟨channel, hchannel⟩ := hgroup.channel name (hnames ▸ hname)
      rcases htaken.channel?_eq hgroup.named hchannel with ⟨-, hsame⟩ | ⟨raw, decoded, -, hheld, -⟩
      · exact ⟨channel, hsame⟩
      · exact ⟨_, hheld⟩

section Line

/-- Fields that a line can be made of so that they can be told from it. -/
structure Separable (separator : Char) (fields : List String) : Prop where
  apart : ∀ field ∈ fields, separator ∉ field.toList
  first : ∀ field ∈ fields.head?, ∀ c ∈ field.toList.head?, Text.isBlank c = false
  last : ∃ field ∈ fields.getLast?, ∃ c ∈ field.toList.getLast?,
    Text.isBlank c = false ∧ (separator ≠ ';' → c ≠ ';')

def joined (separator : Char) (fields : List String) : List Char :=
  [separator].intercalate (fields.map String.toList)

/-- Is the line made of the fields? It may end in semicolons, in several if they are the separator,
and have blanks around it. -/
def IsLine (separator : Char) (fields : List String) (line : String) : Prop :=
  ∃ before count after, line.toList = before ++ (joined separator fields ++
      List.replicate count ';') ++ after ∧
    (∀ c ∈ before, Text.isBlank c = true) ∧ (∀ c ∈ after, Text.isBlank c = true) ∧
    (separator ≠ ';' → count ≤ 1)

variable {separator : Char} {fields : List String}

namespace Separable

theorem ne_nil (hfields : Separable separator fields) : fields ≠ [] := by
  rintro rfl
  obtain ⟨field, hfield, -⟩ := hfields.last
  contradiction

theorem fieldsOf_joined (hfields : Separable separator fields) :
    Text.fieldsOf separator (joined separator fields) = fields.map String.toList := by
  apply Text.fieldsOf_intercalate
  · simpa using hfields.ne_nil
  · intro field hfield
    obtain ⟨text, htext, rfl⟩ := List.mem_map.mp hfield
    exact hfields.apart text htext

theorem head?_joined (hfields : Separable separator fields)
    (hseparator : Text.isBlank separator = false) {c : Char}
    (hc : c ∈ (joined separator fields).head?) : Text.isBlank c = false := by
  cases fields with
  | nil => exact absurd rfl hfields.ne_nil
  | cons field fields =>
      cases fields with
      | nil =>
          rw [joined, List.map_singleton, List.intercalate_singleton] at hc
          exact hfields.first field rfl c hc
      | cons next rest =>
          rw [joined, List.map_cons, List.intercalate_cons_of_ne_nil (by simp), List.append_assoc,
            List.head?_append] at hc
          cases hhead : field.toList.head? with
          | none =>
              rw [hhead] at hc
              obtain rfl : separator = c := by simpa using hc
              exact hseparator
          | some other =>
              rw [hhead] at hc
              obtain rfl : other = c := by simpa using hc
              exact hfields.first field rfl other hhead

theorem exists_joined_concat (separator : Char) (others : List String) (field : String) :
    ∃ front, joined separator (others ++ [field]) = front ++ field.toList := by
  induction others with
  | nil => exact ⟨[], List.intercalate_singleton⟩
  | cons other others ih =>
      obtain ⟨front, hfront⟩ := ih
      refine ⟨other.toList ++ [separator] ++ front, ?_⟩
      rw [joined] at hfront ⊢
      rw [List.cons_append, List.map_cons, List.intercalate_cons_of_ne_nil (by simp), hfront]
      simp only [List.append_assoc]

theorem getLast?_joined (hfields : Separable separator fields) :
    ∃ c, (joined separator fields).getLast? = some c ∧ Text.isBlank c = false ∧ c ≠ ';' := by
  obtain ⟨field, hfield, c, hc, hblank, hsemicolon⟩ := hfields.last
  obtain ⟨others, rfl⟩ := List.getLast?_eq_some_iff.mp hfield
  obtain ⟨front, hfront⟩ := exists_joined_concat separator others field
  refine ⟨c, ?_, hblank, ?_⟩
  · rw [hfront, List.getLast?_append, hc, Option.some_or]
  · rintro rfl
    have hne : separator ≠ ';' := by
      rintro rfl
      exact hfields.apart field (by simp) (List.mem_of_getLast? hc)
    exact hsemicolon hne rfl

theorem joined_ne_nil (hfields : Separable separator fields) : joined separator fields ≠ [] := by
  obtain ⟨c, hc, -⟩ := hfields.getLast?_joined
  intro hnil
  rw [hnil] at hc
  contradiction

end Separable

/-- The semicolons that are left of those at the end of a line separate empty fields. -/
theorem trimmed_of_isLine (hseparator : Text.isBlank separator = false)
    (hfields : Separable separator fields) {line : String} (hline : IsLine separator fields line) :
    ∃ count, trimmed line = joined separator fields ++ List.replicate count separator := by
  obtain ⟨before, count, after, htext, hbefore, hafter, hcount⟩ := hline
  obtain ⟨c, hlast, hblank, hsemicolon⟩ := hfields.getLast?_joined
  have hfirst' : ∀ d ∈ (joined separator fields ++ List.replicate count ';').head?,
      Text.isBlank d = false := by
    intro d hd
    rw [List.head?_append_of_ne_nil _ hfields.joined_ne_nil] at hd
    exact hfields.head?_joined hseparator hd
  have hlast' : ∀ d ∈ (joined separator fields ++ List.replicate count ';').getLast?,
      Text.isBlank d = false := by
    intro d hd
    cases count with
    | zero =>
        rw [List.replicate_zero, List.append_nil, hlast] at hd
        rwa [← Option.some.inj hd]
    | succ count =>
        rw [List.replicate_succ', ← List.append_assoc, List.getLast?_concat] at hd
        rw [← Option.some.inj hd]
        decide
  have hstrip : (Text.strip line).toList = joined separator fields ++ List.replicate count ';' := by
    rw [Text.strip, String.toList_ofList, htext]
    exact Text.dropAround_append hbefore hfirst' hlast' hafter
  rw [trimmed, hstrip]
  cases count with
  | zero =>
      refine ⟨0, ?_⟩
      rw [List.replicate_zero, List.append_nil, hlast, if_neg (by simpa using hsemicolon)]
      exact (List.append_nil _).symm
  | succ count =>
      refine ⟨count, ?_⟩
      rw [List.replicate_succ', ← List.append_assoc, List.getLast?_concat, if_pos rfl,
        List.dropLast_concat]
      by_cases hsame : separator = ';'
      · rw [hsame]
      · obtain rfl : count = 0 := by
          have := hcount hsame
          omega
        rfl

theorem withoutEmptyEnd_append {fields : List (Option String)}
    (hfields : ∀ field ∈ fields.getLast?, field ≠ some "") (count : Nat) :
    withoutEmptyEnd (fields ++ List.replicate count (some "")) = fields := by
  apply Text.rdropWhile_append
  · intro field hfield
    exact decide_eq_false (hfields field hfield)
  · intro field hfield
    exact decide_eq_true (List.eq_of_mem_replicate hfield)

theorem cut_of_isLine (hseparator : Text.isBlank separator = false)
    (hfields : Separable separator fields) {line : String} (hline : IsLine separator fields line) :
    cut (Pattern.only separator) line = some (fields.map some) := by
  obtain ⟨count, htrimmed⟩ := trimmed_of_isLine hseparator hfields hline
  have hne : (trimmed line).isEmpty = false := by
    rw [htrimmed, List.isEmpty_eq_false_iff]
    exact List.append_ne_nil_of_left_ne_nil hfields.joined_ne_nil _
  have hpieces : (Pattern.only separator).split (String.ofList (trimmed line)) =
      fields.map some ++ List.replicate count (some "") := by
    have hkept : (fields.map String.toList).map (fun field => some (String.ofList field)) =
        fields.map some := by
      rw [List.map_map]
      refine List.map_congr_left fun field _ => ?_
      rw [Function.comp_apply, String.ofList_toList]
    rw [Pattern.split_only, String.toList_ofList, htrimmed, Text.fieldsOf_append_replicate,
      hfields.fieldsOf_joined, List.map_append, List.map_replicate, hkept, String.ofList_nil]
  have hlast : ∀ field ∈ (fields.map some).getLast?, field ≠ some "" := by
    obtain ⟨field, hfield, other, hother, -⟩ := hfields.last
    intro found hfound
    rw [List.getLast?_map, Option.mem_def.mp hfield, Option.map_some] at hfound
    rw [← Option.some.inj hfound]
    intro hempty
    rw [Option.some.inj hempty] at hother
    simp at hother
  simp only [cut, hne, Bool.false_eq_true, if_false, hpieces, withoutEmptyEnd_append hlast]

end Line

theorem lastField_zip_of_notMem {names : List String} {name : String} (hname : name ∉ names)
    (fields : List (Option String)) : lastField (names.zip fields) name = none := by
  induction names generalizing fields with
  | nil => rfl
  | cons other names ih =>
      rw [List.mem_cons, not_or] at hname
      obtain ⟨hne, hname⟩ := hname
      cases fields with
      | nil => rfl
      | cons field fields =>
          rw [List.zip_cons_cons, lastField_cons_of_ne (Ne.symm hne)]
          exact ih hname fields

theorem lastField_zip {names : List String} (hnames : names.Nodup) {fields : List (Option String)}
    {index : Nat} {name text : String} (hname : names[index]? = some name)
    (hfield : fields[index]? = some (some text)) :
    lastField (names.zip fields) name = some text := by
  induction names generalizing fields index with
  | nil => simp at hname
  | cons first names ih =>
      obtain ⟨hfirst, hrest⟩ := List.nodup_cons.mp hnames
      cases fields with
      | nil => simp at hfield
      | cons field fields =>
          cases index with
          | zero =>
              obtain rfl : first = name := by simpa using hname
              obtain rfl : field = some text := by simpa using hfield
              rw [List.zip_cons_cons, lastField_cons_some, lastField_zip_of_notMem hfirst]
              rfl
          | succ index =>
              rw [List.getElem?_cons_succ] at hname hfield
              have hne : first ≠ name := by
                rintro rfl
                exact hfirst (List.mem_of_getElem? hname)
              rw [List.zip_cons_cons, lastField_cons_of_ne hne]
              exact ih hrest hname hfield

/-- Has the line enough fields? -/
def Qualifies (group : Group) (line : String) : Prop :=
  ∃ layout fields, group.layout? = some layout ∧ layout.fields line = some fields ∧
    group.names.length ≤ fields.length

/-- A round takes in the fields that the first line with enough of them is made of. -/
theorem round_takes_delimited_fields {group : Group} {separator : Char} {url page line : String}
    {fields : List String} {before after : List String} (hgroup : group.Complete)
    (hnames : group.names.Nodup) (hurl : group.url = some url) (hpattern : group.pattern = none)
    (hseparator : group.separator = (Pattern.compile (String.singleton separator)).toOption)
    (hliteral : separator ∉ Pattern.operators) (hblank : Text.isBlank separator = false)
    (hfields : Separable separator fields) (hcount : group.names.length ≤ fields.length)
    {network : Network} (hstale : group.isStale network.reading = true)
    (hpage : (network.answerFor url).page = some page)
    (hlines : (Text.lines page).take maxLines = before ++ line :: after)
    (hline : IsLine separator fields line) (hbefore : ∀ earlier ∈ before, ¬group.Qualifies earlier)
    (tables : CodeTables) :
    ((group.round tables).run network).1.2 = true ∧
      ∀ (index : Nat) name, group.names[index]? = some name → ∃ channel field,
        fields[index]? = some field ∧
        ((group.round tables).run network).1.1.2.channel? name = some channel ∧
        channel.raw = some field := by
  have hlayout : group.layout? = some (.separated (Pattern.only separator)) := by
    rw [Pattern.compile_singleton hliteral] at hseparator
    simp only [layout?, hseparator, hpattern, Except.toOption]
  have hextract : extract (.separated (Pattern.only separator)) group.names.length page =
      some (fields.map some) := by
    have hcut : (Layout.separated (Pattern.only separator)).fields line =
        some (fields.map some) := by
      rw [Layout.fields]
      exact cut_of_isLine hblank hfields hline
    refine extract_eq_some_iff.mpr ⟨before, line, after, hlines, hcut, by simpa using hcount, ?_⟩
    intro earlier hearlier short hshort
    by_contra hlong
    exact hbefore earlier hearlier ⟨_, short, hlayout, hshort, by omega⟩
  have hrounded := group.rounded_round tables network
  have hchanged : ((group.round tables).run network).1.2 = true :=
    hrounded.succeeded_iff.mpr ⟨hstale, _, url, page, hlayout, hurl, hpage, by rw [hextract]; rfl⟩
  refine ⟨hchanged, ?_⟩
  intro index name hname
  obtain ⟨channel, hchannel⟩ := hgroup.channel name (List.mem_of_getElem? hname)
  obtain ⟨field, hfield⟩ : ∃ field, fields[index]? = some field := by
    obtain ⟨hindex, -⟩ := List.getElem?_eq_some_iff.mp hname
    exact ⟨_, List.getElem?_eq_getElem (by omega)⟩
  have hlast : lastField (group.names.zip (fields.map some)) name = some field :=
    lastField_zip hnames hname (by rw [List.getElem?_map, hfield]; rfl)
  generalize (group.round tables).run network = outcome at hrounded hchanged ⊢
  obtain ⟨⟨⟨tables', group'⟩, changed⟩, network'⟩ := outcome
  obtain rfl : changed = true := hchanged
  cases hrounded with
  | taken _ hlayout' hurl' hpage' hextract' htaken =>
      obtain rfl := Option.some.inj (hlayout.symm.trans hlayout')
      obtain rfl := Option.some.inj (hurl.symm.trans hurl')
      obtain rfl := Option.some.inj (hpage.symm.trans hpage')
      obtain rfl := Option.some.inj (hextract.symm.trans hextract')
      rcases htaken.channel?_eq hgroup.named hchannel with ⟨hnone, -⟩ | ⟨raw, decoded, hraw, hheld, -⟩
      · rw [hlast] at hnone
        contradiction
      · obtain rfl := Option.some.inj (hlast.symm.trans hraw)
        exact ⟨_, field, hfield, hheld, rfl⟩

/-- A group that sends a power, the phase that it comes from and a remark. -/
def remarks : Group :=
  { declare "remarks" ["power", "phase", "remark"] 1000 true 3000 with
    url := some "http://host/remarks"
    separator := (Pattern.compile ",").toOption }

def remarksNetwork : Network where
  now := 1000
  answer _ _ := ⟨some "# power,phase\n\t42,, on grid ,spare; \n1,2,3", 5⟩
  reaches _ _ := true

theorem complete_remarks : remarks.Complete := by
  have hdeclared := complete_declare "remarks" ["power", "phase", "remark"] 1000 true 3000
  exact ⟨hdeclared.named, hdeclared.channel⟩

theorem separable_remark : Separable ',' ["42", "", " on grid ", "spare"] where
  apart := by decide +kernel
  first := by
    intro field hfield c hc
    obtain rfl : "42" = field := by simpa using hfield
    obtain rfl : '4' = c := by simpa using hc
    rfl
  last := ⟨"spare", by decide +kernel, 'e', by decide +kernel, by decide +kernel, by decide +kernel⟩

theorem isLine_remark : IsLine ',' ["42", "", " on grid ", "spare"] "\t42,, on grid ,spare; " :=
  ⟨['\t'], 1, [' '], by decide +kernel, List.forall_mem_singleton.mpr rfl,
    List.forall_mem_singleton.mpr rfl, by decide +kernel⟩

theorem not_qualifies_heading : ¬remarks.Qualifies "# power,phase" := by
  rintro ⟨layout, fields, hlayout, hfields, hcount⟩
  have hlayout' : remarks.layout? = some (.separated (Pattern.only ',')) := by decide +kernel
  obtain rfl := Option.some.inj (hlayout'.symm.trans hlayout)
  have hfields' : cut (Pattern.only ',') "# power,phase" = some [some "# power", some "phase"] := by
    decide +kernel
  obtain rfl := Option.some.inj (hfields'.symm.trans hfields)
  revert hcount
  decide +kernel

theorem round_remarks_takes_fields :
    ((remarks.round []).run remarksNetwork).1.2 = true ∧
      ∃ channel, ((remarks.round []).run remarksNetwork).1.1.2.channel? "remark" = some channel ∧
        channel.raw = some " on grid " := by
  have hlines : (Text.lines "# power,phase\n\t42,, on grid ,spare; \n1,2,3").take maxLines =
      ["# power,phase"] ++ "\t42,, on grid ,spare; " :: ["1,2,3"] := by
    decide +kernel
  have hbefore : ∀ earlier ∈ ["# power,phase"], ¬remarks.Qualifies earlier := by
    intro earlier hearlier
    rw [List.mem_singleton.mp hearlier]
    exact not_qualifies_heading
  have hstale : remarks.isStale remarksNetwork.reading = true := by decide +kernel
  obtain ⟨hchanged, hraws⟩ := round_takes_delimited_fields complete_remarks (by decide +kernel) rfl
    rfl rfl (by decide +kernel) (by decide +kernel) separable_remark (by decide +kernel) hstale rfl
    hlines isLine_remark hbefore []
  obtain ⟨channel, field, hfield, hchannel, hraw⟩ := hraws 2 "remark" rfl
  obtain rfl := Option.some.inj hfield
  exact ⟨hchanged, channel, hchannel, hraw⟩

end Telemetry.Group
