import Mathlib
import SwapDesk.Proofs.Json.Text
import SwapDesk.Proofs.Settings.Formats

/-!
# Layers of settings

Where layers give texts for the settings, each setting is what the last layer that gives one for it
gives, whatever the layers give for the others. The variables of the environment are a layer, and
the command line goes over all layers.
-/

namespace SwapDesk.Settings

/-- What the layer gives for the settings is texts, and it gives nothing below them. -/
def GivesTexts (layer : Layer) : Prop :=
  ∀ entry ∈ layer, ∀ name ∈ names,
    isBelow name entry.1 = false ∧ (entry.1 = name → ∃ s, entry.2 = .string s)

/-- The text that a layer gives under a name. Of several the last one counts. -/
def given? (layer : Layer) (name : String) : Option String :=
  (layer.reverse.lookup name).bind Json.string?

variable {layer : Layer} {name : String}

/-! ## One layer over another -/

private theorem given?_append_singleton (layer : Layer) (key : String) (value : Json)
    (name : String) :
    given? (layer ++ [(key, value)]) name =
      if key = name then value.string? else given? layer name := by
  rw [given?, List.reverse_append, List.reverse_singleton, List.singleton_append, List.lookup_cons]
  by_cases hkey : key = name
  · rw [if_pos hkey, hkey, beq_self_eq_true]
    rfl
  · rw [if_neg hkey, beq_false_of_ne (Ne.symm hkey)]
    rfl

/-- A layer that gives a text for a setting settles it, and any other leaves it as it is. -/
theorem foldl_lay (h : GivesTexts layer) (hname : name ∈ names) (current : Option Json) :
    layer.foldl (lay name) current = ((given? layer name).map Json.string).or current := by
  induction layer using List.reverseRecOn with
  | nil => rfl
  | append_singleton layer entry ih =>
    obtain ⟨key, value⟩ := entry
    obtain ⟨hbelow, htext⟩ := h (key, value) (by simp) name hname
    rw [List.foldl_append, ih fun entry hentry => h entry (List.mem_append_left _ hentry),
      given?_append_singleton]
    change lay name _ (key, value) = _
    by_cases hkey : key = name
    · obtain ⟨s, hs⟩ := htext hkey
      dsimp only at hs
      rw [hs, if_pos hkey]
      exact if_pos hkey
    · rw [if_neg hkey]
      exact (if_neg hkey).trans (if_neg (by simpa using hbelow))

theorem value?_eq_findSome? {layers : List Layer} (h : ∀ layer ∈ layers, GivesTexts layer)
    (hname : name ∈ names) :
    value? layers name = (layers.reverse.findSome? (given? · name)).map Json.string := by
  induction layers using List.reverseRecOn with
  | nil => rfl
  | append_singleton layers layer ih =>
    rw [List.forall_mem_append, List.forall_mem_singleton] at h
    have hflat : value? (layers ++ [layer]) name = layer.foldl (lay name) (value? layers name) := by
      rw [value?, List.flatten_append, List.flatten_singleton, List.foldl_append, value?]
    rw [hflat, foldl_lay h.2 hname, ih h.1, List.reverse_append, List.reverse_singleton,
      List.singleton_append, List.findSome?_cons]
    cases given? layer name <;> rfl

/-! ## Layers that give texts -/

private theorem leadsOn_eq_false {s : List Char} (hpoint : '.' ∉ s)
    (hbracket : '[' ∉ s) (fuel : Nat) :
    leadsOn fuel s = false := by
  cases fuel with
  | zero => rfl
  | succ fuel =>
    cases s with
    | nil => rfl
    | cons c rest =>
      have hc : c ≠ '.' := fun h => hpoint (h ▸ List.mem_cons_self)
      have hc' : c ≠ '[' := fun h => hbracket (h ▸ List.mem_cons_self)
      simp [leadsOn, hc, hc']

private theorem isBelow_eq_false {key : String} (hpoint : '.' ∉ key.toList)
    (hbracket : '[' ∉ key.toList) (name : String) : isBelow name key = false := by
  rw [isBelow, leadsOn_eq_false, Bool.and_false]
  · exact fun h => hpoint (List.mem_of_mem_drop h)
  · exact fun h => hbracket (List.mem_of_mem_drop h)

theorem givesTexts_of_texts (h : ∀ entry ∈ layer,
    '.' ∉ entry.1.toList ∧ '[' ∉ entry.1.toList ∧ ∃ s, entry.2 = .string s) : GivesTexts layer :=
  fun entry hentry name _ =>
    ⟨isBelow_eq_false (h entry hentry).1 (h entry hentry).2.1 name, fun _ => (h entry hentry).2.2⟩

theorem givesTexts_nil : GivesTexts [] := nofun

theorem givesTexts_defaults : GivesTexts defaults := by
  apply givesTexts_of_texts
  intro entry hentry
  simp only [defaults, List.mem_cons, List.not_mem_nil, or_false] at hentry
  rcases hentry with rfl | rfl | rfl
  · exact ⟨by decide, by decide, _, rfl⟩
  · exact ⟨by decide, by decide, _, rfl⟩
  · exact ⟨by decide, by decide, _, rfl⟩

/-! ## The environment -/

/-- The value of a variable of the environment, by its name in whatever case. Of several the last
one counts. -/
def environmentValue? (environment : List (String × String)) (name : String) : Option String :=
  (environment.reverse.find? fun other =>
    other.1.toList.map lowerChar == name.toList.map lowerChar).map (·.2)

private theorem environmentValue?_append_singleton (environment : List (String × String))
    (other : String × String) (variableName : String) :
    environmentValue? (environment ++ [other]) variableName =
      if other.1.toList.map lowerChar = variableName.toList.map lowerChar then some other.2
      else environmentValue? environment variableName := by
  rw [environmentValue?, List.reverse_append, List.reverse_singleton, List.singleton_append,
    List.find?_cons]
  split
  · next heq => rw [if_pos (eq_of_beq heq), Option.map_some]
  · next heq => rw [if_neg (by simpa using heq), environmentValue?]

private theorem given?_ofEnvironment {variableName : String}
    (h : variableName.toList.map lowerChar = variableMark ++ name.toList)
    (environment : List (String × String)) :
    given? (ofEnvironment environment) name = environmentValue? environment variableName := by
  induction environment using List.reverseRecOn with
  | nil => rfl
  | append_singleton environment other ih =>
    rw [environmentValue?_append_singleton, h, ofEnvironment, List.filterMap_append,
      ← ofEnvironment, List.filterMap_cons, List.filterMap_nil, ← ih]
    dsimp only
    generalize other.1.toList.map lowerChar = lower
    by_cases hmark : variableMark <+: lower
    · obtain ⟨rest, rfl⟩ := hmark
      have hprefix : variableMark.isPrefixOf (variableMark ++ rest) :=
        List.isPrefixOf_iff_prefix.mpr (List.prefix_append ..)
      rw [if_pos hprefix, List.drop_left, given?_append_singleton, Json.string?]
      have hname : String.ofList rest = name ↔
          variableMark ++ rest = variableMark ++ name.toList := by
        rw [List.append_cancel_left_eq, ← String.ofList_inj, String.ofList_toList]
      simp only [hname]
    · have hprefix : variableMark.isPrefixOf lower ≠ true :=
        fun hp => hmark (List.isPrefixOf_iff_prefix.mp hp)
      have hne : lower ≠ variableMark ++ name.toList := by
        rintro rfl
        exact hmark (List.prefix_append ..)
      rw [if_neg hprefix, if_neg hne]
      simp

private theorem eq_of_lowerChar_eq {c d : Char} (hd : d.toNat < 'a'.toNat) (h : lowerChar c = d) :
    c = d := by
  rw [lowerChar] at h
  split at h
  · rw [← h] at hd
    exact absurd hd (by decide)
  · rw [Char.toLower] at h
    split at h
    · next hletter =>
      have hlow : 65 ≤ c.toNat := UInt32.le_iff_toNat_le.mp hletter.1
      have hhigh : c.toNat ≤ 90 := UInt32.le_iff_toNat_le.mp hletter.2
      have hsum : (c.toNat + 32) % 4294967296 = d.toNat := congrArg Char.toNat h
      have hletter : d.toNat < 97 := hd
      omega
    · exact h

theorem givesTexts_ofEnvironment {environment : List (String × String)}
    (h : ∀ other ∈ environment, '.' ∉ other.1.toList ∧ '[' ∉ other.1.toList) :
    GivesTexts (ofEnvironment environment) := by
  apply givesTexts_of_texts
  intro entry hentry
  obtain ⟨⟨variableName, value⟩, hother, hsome⟩ := List.mem_filterMap.mp hentry
  obtain ⟨hpoint, hbracket⟩ := h _ hother
  have hmem : ∀ d : Char, d.toNat < 'a'.toNat →
      d ∈ (variableName.toList.map lowerChar).drop variableMark.length →
        d ∈ variableName.toList := by
    intro d hd hdrop
    obtain ⟨c, hc, hlower⟩ := List.mem_map.mp (List.mem_of_mem_drop hdrop)
    exact eq_of_lowerChar_eq hd hlower ▸ hc
  rw [Option.ite_none_right_eq_some] at hsome
  obtain ⟨-, hentry⟩ := hsome
  cases hentry
  dsimp only
  rw [String.toList_ofList]
  exact ⟨fun hdrop => hpoint (hmem _ (by decide) hdrop),
    fun hdrop => hbracket (hmem _ (by decide) hdrop), _, rfl⟩

/-! ## Files -/

/-- The fields of a file that gives a text for some of the settings. -/
def textFields (texts : String → Option String) : Layer :=
  ["account_id", "contract_name", "network", "rpc_url"].filterMap fun name =>
    (texts name).map fun s => (name, .string s)

variable {texts : String → Option String}

private theorem mem_textFields {field : String × Json} :
    field ∈ textFields texts ↔
      field.1 ∈ names ∧ ∃ s, texts field.1 = some s ∧ field.2 = .string s := by
  obtain ⟨key, value⟩ := field
  simp only [textFields, List.mem_filterMap, Option.map_eq_some_iff, Prod.mk.injEq]
  constructor
  · rintro ⟨_, hname, s, hs, rfl, rfl⟩
    refine ⟨?_, s, hs, rfl⟩
    revert hname
    simp only [names, List.mem_cons]
    tauto
  · rintro ⟨hname, s, hs, rfl⟩
    refine ⟨key, ?_, s, hs, rfl, rfl⟩
    revert hname
    simp only [names, List.mem_cons]
    tauto

private theorem sorted_textFields (texts : String → Option String) :
    (textFields texts).Pairwise fun f g => f.1 < g.1 := by
  have hnames : ["account_id", "contract_name", "network", "rpc_url"].Pairwise (· < ·) := by decide
  apply hnames.filterMap
  intro name other hlt field hfield otherField hother
  obtain ⟨_, -, rfl⟩ := Option.map_eq_some_iff.mp hfield
  obtain ⟨_, -, rfl⟩ := Option.map_eq_some_iff.mp hother
  exact hlt

theorem given?_textFields (hname : name ∈ names) :
    given? (textFields texts) name = texts name := by
  have hnodup : ((textFields texts).reverse.map (·.1)).Nodup := by
    rw [List.map_reverse, List.nodup_reverse, List.Nodup, List.pairwise_map]
    exact (sorted_textFields texts).imp fun hlt => ne_of_lt hlt
  rw [given?]
  cases htext : texts name with
  | some s =>
    have hmem : (name, Json.string s) ∈ (textFields texts).reverse :=
      List.mem_reverse.mpr (mem_textFields.mpr ⟨hname, s, htext, rfl⟩)
    rw [Json.lookup_of_nodup hnodup hmem]
    rfl
  | none =>
    cases hlookup : (textFields texts).reverse.lookup name with
    | none => rfl
    | some value =>
      obtain ⟨before, after, hfields, -⟩ := List.lookup_eq_some_iff.mp hlookup
      have hmem : (name, value) ∈ textFields texts := by
        rw [← List.mem_reverse, hfields]
        simp
      obtain ⟨-, s, hs, -⟩ := mem_textFields.mp hmem
      rw [htext] at hs
      contradiction

theorem givesTexts_textFields (texts : String → Option String) : GivesTexts (textFields texts) := by
  apply givesTexts_of_texts
  intro field hfield
  obtain ⟨hname, s, -, hs⟩ := mem_textFields.mp hfield
  have hplain : ∀ name ∈ names, '.' ∉ name.toList ∧ '[' ∉ name.toList := by decide
  exact ⟨(hplain _ hname).1, (hplain _ hname).2, s, hs⟩

section Simple

variable {entries : List (String × String)}

theorem givesTexts_sortFields (h : IsSimple entries) :
    GivesTexts (Json.sortFields (fieldsOf entries)) := by
  apply givesTexts_of_texts
  intro field hfield
  obtain ⟨entry, hentry, rfl⟩ :=
    List.mem_map.mp ((Json.sortFields_spec (fieldsOf entries)).2 field hfield)
  have hplain : ∀ name ∈ names, '.' ∉ name.toList ∧ '[' ∉ name.toList := by decide
  obtain ⟨hpoint, hbracket⟩ := hplain _ (h.named entry hentry)
  exact ⟨hpoint, hbracket, _, rfl⟩

theorem given?_sortFields (h : IsSimple entries) (name : String) :
    given? (Json.sortFields (fieldsOf entries)) name = entries.lookup name := by
  have hsorted : ((Json.sortFields (fieldsOf entries)).map (·.1)).Nodup := by
    rw [List.Nodup, List.pairwise_map]
    exact (Json.sortFields_spec (fieldsOf entries)).1.imp ne_of_lt
  have hnodup : ((fieldsOf entries).map (·.1)).Nodup := by
    rw [fieldsOf, List.map_map]
    exact h.once
  rw [given?, Json.lookup_reverse hsorted, Json.lookup_sortFields, Json.lookup_reverse hnodup]
  clear h hsorted hnodup
  induction entries with
  | nil => rfl
  | cons entry entries ih =>
    rw [fieldsOf, List.map_cons, ← fieldsOf, List.lookup_cons, List.lookup_cons]
    cases name == entry.1
    · exact ih
    · rfl

end Simple

theorem ofFile_eq {formats : List Format} {files : String → Option String} {path text : String}
    {format : Format} (hfile : files path = some text) (hformat : Format.ofPath? path = some format)
    (hread : (format.read? text).map ofValue = some layer) :
    ofFile formats files path = .ok layer := by
  obtain ⟨value, hvalue, rfl⟩ := Option.map_eq_some_iff.mp hread
  have hfound :
      (candidates formats path).find? (fun candidate => (files candidate).isSome) = some path := by
    rw [candidates, List.find?_cons, hfile]
    rfl
  rw [ofFile, hfound]
  dsimp only
  rw [hformat, hfile]
  dsimp only [Option.bind_some]
  rw [hvalue]

/-- The order of the formats matters only where the path means several files. -/
theorem ofFile_perm {formats formats' : List Format} (h : formats.Perm formats')
    {files : String → Option String} {path : String}
    (hone : {candidate ∈ candidates formats path | (files candidate).isSome}.Subsingleton) :
    ofFile formats files path = ofFile formats' files path := by
  have hperm : (candidates formats path).Perm (candidates formats' path) :=
    (h.flatMap_right _).cons path
  rw [ofFile, ofFile, List.find?_eq_find?_of_perm hperm hone]

/-- The layer of the file that the command line names. No file gives nothing. -/
def fileLayer (formats : List Format) (line : CommandLine) (files : String → Option String) :
    Except SettingsFault Layer :=
  match line.config with
  | some path => ofFile formats files path
  | none => .ok []

/-! ## Loading -/

/-- The settings, each from the highest layer that gives it: the command line, then the environment,
then the file, then the defaults. -/
def highest (line : CommandLine) (environment : List (String × String))
    (inFile : String → Option String) : Settings where
  network := ((environmentValue? environment "SWAPCTL_NETWORK").or (inFile "network")).getD
    "testnet"
  rpcUrl := (line.rpcUrl.or
    ((environmentValue? environment "SWAPCTL_RPC_URL").or (inFile "rpc_url"))).getD
      "https://rpc.testnet.near.org"
  contract := (line.contract.or
    ((environmentValue? environment "SWAPCTL_CONTRACT_NAME").or (inFile "contract_name"))).getD
      "nearswap.testnet"
  account := line.account.or
    ((environmentValue? environment "SWAPCTL_ACCOUNT_ID").or (inFile "account_id"))

section Loading

variable {line : CommandLine} {environment : List (String × String)}
  {files : String → Option String} {file : Layer}

private theorem value?_allLayers (hfile : GivesTexts file)
    (henvironment : GivesTexts (ofEnvironment environment)) (variableName name : String)
    (hname : name ∈ names)
    (hvariable : variableName.toList.map lowerChar = variableMark ++ name.toList) :
    value? [defaults, file, ofEnvironment environment] name =
      (((environmentValue? environment variableName).or (given? file name)).or
        (given? defaults name)).map Json.string := by
  have hall : ∀ layer ∈ [defaults, file, ofEnvironment environment], GivesTexts layer := by
    simp [givesTexts_defaults, hfile, henvironment]
  rw [value?_eq_findSome? hall hname, ← given?_ofEnvironment hvariable]
  simp only [List.reverse_cons, List.reverse_nil, List.nil_append, List.cons_append,
    List.findSome?_cons, List.findSome?_nil]
  cases given? (ofEnvironment environment) name <;> cases given? file name <;>
    cases given? defaults name <;> rfl

private theorem required_eq_getD {layers : List Layer} {text : Option String} {fallback : String}
    (h : value? layers name = (text.or (some fallback)).map Json.string) :
    required layers name = .ok (text.getD fallback) := by
  rw [required, h]
  cases text <;> rfl

private theorem account?_eq {layers : List Layer} {text : Option String}
    (h : value? layers "account_id" = text.map Json.string) : account? layers = .ok text := by
  rw [account?, h]
  cases text <;> rfl

private theorem load_eq (formats : List Format) (line : CommandLine)
    (environment : List (String × String)) (files : String → Option String) :
    load formats line environment files = do
      let file ← fileLayer formats line files
      let settings ← ofLayers [defaults, file, ofEnvironment environment]
      return settings.withLine line := by
  rw [load, fileLayer]
  cases line.config <;> rfl

theorem ofLayers_eq (hfile : GivesTexts file)
    (henvironment : GivesTexts (ofEnvironment environment)) :
    ∃ settings, ofLayers [defaults, file, ofEnvironment environment] = .ok settings ∧
      settings.withLine line = highest line environment (given? file) := by
  have hvalue := value?_allLayers hfile henvironment
  have hnetwork := hvalue "SWAPCTL_NETWORK" "network" (by decide) (by decide)
  have hrpcUrl := hvalue "SWAPCTL_RPC_URL" "rpc_url" (by decide) (by decide)
  have hcontract := hvalue "SWAPCTL_CONTRACT_NAME" "contract_name" (by decide) (by decide)
  have haccount := hvalue "SWAPCTL_ACCOUNT_ID" "account_id" (by decide) (by decide)
  have hnone : given? defaults "account_id" = none := rfl
  rw [hnone, Option.or_none] at haccount
  have hfields : ofLayers [defaults, file, ofEnvironment environment] = .ok
      ⟨((environmentValue? environment "SWAPCTL_NETWORK").or (given? file "network")).getD
         "testnet",
       ((environmentValue? environment "SWAPCTL_RPC_URL").or (given? file "rpc_url")).getD
         "https://rpc.testnet.near.org",
       ((environmentValue? environment "SWAPCTL_CONTRACT_NAME").or
         (given? file "contract_name")).getD "nearswap.testnet",
       (environmentValue? environment "SWAPCTL_ACCOUNT_ID").or (given? file "account_id")⟩ := by
    rw [ofLayers, required_eq_getD hnetwork, required_eq_getD hrpcUrl, required_eq_getD hcontract,
      account?_eq haccount]
    rfl
  refine ⟨_, hfields, ?_⟩
  rw [withLine, highest]
  cases line.rpcUrl <;> cases line.contract <;> rfl

/-- Settings that are given as texts are loaded, and each, apart from the others, is what the
highest layer that gives it gives. This holds without a file and with any file that gives texts. A
file in JSON can give any texts for some of the settings and nothing for the others, and a file in
any format can give texts of visible characters. -/
theorem load_highest (formats : List Format) (line : CommandLine)
    (environment : List (String × String)) (files : String → Option String)
    (henvironment : GivesTexts (ofEnvironment environment)) :
    (line.config = none →
      load formats line environment files = .ok (highest line environment fun _ => none)) ∧
    (∀ path file, line.config = some path → ofFile formats files path = .ok file →
      GivesTexts file →
      load formats line environment files = .ok (highest line environment (given? file))) ∧
    (∀ path texts, line.config = some path → Format.ofPath? path = some .json →
      files path = some (Json.object (textFields texts)).render →
      load formats line environment files = .ok (highest line environment texts)) ∧
    ∀ path format entries, line.config = some path → Format.ofPath? path = some format →
      IsSimple entries → files path = some (format.document entries) →
      load formats line environment files =
        .ok (highest line environment fun name => entries.lookup name) := by
  have hload : ∀ file, fileLayer formats line files = .ok file → GivesTexts file →
      load formats line environment files = .ok (highest line environment (given? file)) := by
    intro file hfile htexts
    obtain ⟨settings, hsettings, hhighest⟩ := @ofLayers_eq line _ _ htexts henvironment
    rw [load_eq, hfile, ← hhighest]
    change (ofLayers _ >>= fun settings => pure (settings.withLine line)) = _
    rw [hsettings]
    rfl
  refine ⟨fun hconfig => ?_, fun path file hconfig hfile htexts => ?_,
    fun path texts hconfig hformat hjson => ?_,
    fun path format entries hconfig hformat hsimple hdocument => ?_⟩
  · rw [hload [] (by rw [fileLayer, hconfig]) givesTexts_nil]
    rfl
  · exact hload file (by rw [fileLayer, hconfig]; exact hfile) htexts
  · have hread : (Format.json.read? (Json.object (textFields texts)).render).map ofValue =
        some (textFields texts) := by
      have htexts : ∀ field ∈ textFields texts, ∃ s, field.2 = .string s := by
        intro field hfield
        obtain ⟨-, s, -, hs⟩ := mem_textFields.mp hfield
        exact ⟨s, hs⟩
      rw [Format.read?, Format.parse?_render_texts (sorted_textFields texts) htexts]
      rfl
    have hfile : fileLayer formats line files = .ok (textFields texts) := by
      rw [fileLayer, hconfig]
      exact ofFile_eq hjson hformat hread
    rw [hload _ hfile (givesTexts_textFields texts)]
    have hsame : ∀ name ∈ names, given? (textFields texts) name = texts name :=
      fun _ => given?_textFields
    rw [highest, highest, hsame "network" (by decide), hsame "rpc_url" (by decide),
      hsame "contract_name" (by decide), hsame "account_id" (by decide)]
  · have hfile : fileLayer formats line files = .ok (Json.sortFields (fieldsOf entries)) := by
      rw [fileLayer, hconfig]
      exact ofFile_eq hdocument hformat (format.read?_document hsimple)
    rw [hload _ hfile (givesTexts_sortFields hsimple)]
    simp only [highest, given?_sortFields hsimple]

/-- A file in one of three formats with the name of the contract in the environment and an account
on the command line. -/
theorem load_highest_file :
    let line path : CommandLine := ⟨some path, none, none, some "carol.near", .pools⟩
    let environment := [("PATH", "/bin"), ("SWAPCTL_CONTRACT_NAME", "env.near")]
    let files := fun path =>
      if path = "swapctl.toml" then
        some "network = \"mainnet\"\ncontract_name = \"amm.near\"\naccount_id = \"bob.near\"\n"
      else if path = "swapctl.json" then
        some "\x7b\"contract_name\":\"amm.near\",\"network\":\"mainnet\"\x7d"
      else if path = "swapctl.yaml" then
        some "network: \"mainnet\"\naccount_id: \"bob.near\"\n"
      else none
    GivesTexts (ofEnvironment environment) ∧
      ∀ path ∈ ["swapctl.toml", "swapctl.json", "swapctl.yaml"],
        load Format.all (line path) environment files = .ok
          ⟨"mainnet", "https://rpc.testnet.near.org", "env.near", some "carol.near"⟩ := by
  intro line environment files
  have henvironment : GivesTexts (ofEnvironment environment) :=
    givesTexts_ofEnvironment (by decide)
  refine ⟨henvironment, ?_⟩
  rw [List.forall_mem_cons, List.forall_mem_cons, List.forall_mem_singleton]
  refine ⟨?_, ?_, ?_⟩
  · have hfile : ofFile Format.all files "swapctl.toml" = .ok [("account_id", .string "bob.near"),
        ("contract_name", .string "amm.near"), ("network", .string "mainnet")] := by
      dsimp only [files]
      cbv
    have htexts : GivesTexts [("account_id", .string "bob.near"),
        ("contract_name", .string "amm.near"), ("network", .string "mainnet")] := by
      apply givesTexts_of_texts
      simp
    rw [(load_highest _ _ environment files henvironment).2.1 "swapctl.toml" _ rfl hfile htexts]
    rfl
  · have hfile : files "swapctl.json" = some (Json.object (textFields fun name =>
        if name = "network" then some "mainnet"
        else if name = "contract_name" then some "amm.near"
        else none)).render := by
      dsimp only [files]
      cbv
    rw [(load_highest _ _ environment files henvironment).2.2.1 "swapctl.json" _ rfl (by decide)
      hfile]
    rfl
  · have hvisible : ∀ entry ∈ [("network", "mainnet"), ("account_id", "bob.near")],
        entry.2.toList.all isVisible := by decide
    have hsimple : IsSimple [("network", "mainnet"), ("account_id", "bob.near")] :=
      ⟨by decide, by decide, fun entry hentry => List.all_eq_true.mp (hvisible entry hentry)⟩
    have hfile : files "swapctl.yaml" =
        some (Format.yaml.document [("network", "mainnet"), ("account_id", "bob.near")]) := by
      dsimp only [files]
      cbv
    rw [(load_highest _ _ environment files henvironment).2.2.2 "swapctl.yaml" .yaml _ rfl
      (by decide) hsimple hfile]
    rfl

end Loading

end SwapDesk.Settings
