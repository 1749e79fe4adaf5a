import Mockly.Lib.Base64
import Mockly.Go.Runes
import Mockly.HTTPServer.Recording

/-!
# Bodies in YAML

The YAML library writes a string that is not valid UTF-8 as a `!!binary` scalar, in base64.
`UnmarshalYAML` takes the text of a scalar as it stands.

Main result: **`yaml_round_trip_iff`**.
-/

namespace Mockly

open HTTPBody Base64

/-! ## Nodes -/

/-- The tags that decoding into a string tells apart. -/
inductive YAMLTag
  | str
  | binary
  | null
  | other

/-- `yaml.Node`. -/
inductive YAMLNode
  | scalar (tag : YAMLTag) (value : GoString)
  | mapping (content : List (YAMLNode × YAMLNode))
  | sequence (content : List YAMLNode)
  | aliasOf (target : YAMLNode)

/-- The values that `MarshalYAML` hands to the library: a string, or a `map[string]string`. -/
inductive YAMLValue
  | str (s : GoString)
  | strMap (entries : List (GoString × GoString))

/-- The struct that `UnmarshalYAML` decodes a mapping into. -/
structure BodySpec where
  file : GoString := []
  dir : GoString := []

/-- A string as the library emits and parses it, with `binaryText` for what is not UTF-8. -/
def stringNode (binaryText : GoString → GoString) (s : GoString) : YAMLNode :=
  if validString s then .scalar .str s else .scalar .binary (binaryText s)

/-- What is assumed of the YAML library.  Its base64 text may be broken into lines, and its own
decoder reads a string back from the node it has emitted for it. -/
structure YAMLLibrary where
  binaryText : GoString → GoString
  decode : YAMLNode → Except GoString BodySpec
  joinLines_binaryText : ∀ s, joinLines (binaryText s) = encode s
  decode_file : ∀ s, decode (.mapping [(.scalar .str (go "file"), stringNode binaryText s)]) =
    .ok { file := s }
  decode_dir : ∀ s, decode (.mapping [(.scalar .str (go "dir"), stringNode binaryText s)]) =
    .ok { dir := s }

/-- The node that is parsed from what the library has emitted for a value. -/
def YAMLLibrary.node (lib : YAMLLibrary) : YAMLValue → YAMLNode
  | .str s => stringNode lib.binaryText s
  | .strMap entries =>
    .mapping (entries.map fun e => (stringNode lib.binaryText e.1, stringNode lib.binaryText e.2))

/-! ### A library with one-line texts -/

/-- A string field of a struct, which a null leaves as it is. -/
def decodeString (old : GoString) : YAMLNode → Except GoString GoString
  | .scalar .str value => .ok value
  | .scalar .other value => .ok value
  | .scalar .null _ => .ok old
  | .scalar .binary value =>
    match decode value with
    | some s => .ok s
    | none => .error (go "yaml: !!binary value contains invalid base64 data")
  | .mapping _ => .error (go "yaml: unmarshal errors: cannot unmarshal !!map into string")
  | .sequence _ => .error (go "yaml: unmarshal errors: cannot unmarshal !!seq into string")
  | .aliasOf target => decodeString old target

/-- One entry of a mapping.  A key that names no field is passed over. -/
def decodeField (spec : BodySpec) (entry : YAMLNode × YAMLNode) : Except GoString BodySpec :=
  match entry.1 with
  | .scalar _ key =>
    if key = go "file" then
      (decodeString spec.file entry.2).map fun s => { spec with file := s }
    else if key = go "dir" then
      (decodeString spec.dir entry.2).map fun s => { spec with dir := s }
    else .ok spec
  | _ => .ok spec

/-- A mapping without merge keys and without two keys that are the same. -/
def decodeSpec : YAMLNode → Except GoString BodySpec
  | .mapping content => content.foldlM decodeField {}
  | _ => .error (go "yaml: unmarshal errors: cannot unmarshal into struct")

lemma decodeString_stringNode (old s : GoString) :
    decodeString old (stringNode encode s) = .ok s := by
  unfold stringNode
  split_ifs with hvalid
  · rfl
  · simp [decodeString, decode_encode]

def unfoldedYAML : YAMLLibrary where
  binaryText := encode
  decode := decodeSpec
  joinLines_binaryText := joinLines_encode
  decode_file := fun s => by simp [decodeSpec, decodeField, decodeString_stringNode, Except.map]
  decode_dir := fun s => by
    have hne : go "dir" ≠ go "file" := by decide
    simp [decodeSpec, decodeField, hne, decodeString_stringNode, Except.map]

/-! ## Bodies -/

def HTTPBody.marshalYAML (b : HTTPBody) : YAMLValue :=
  if b.file ≠ [] then .strMap [(go "file", b.file)]
  else if b.dir ≠ [] then .strMap [(go "dir", b.dir)]
  else .str b.literal

def HTTPBody.setStructured (b : HTTPBody) (file dir : GoString) : Except GoString HTTPBody :=
  if file = [] ∧ dir = [] then .error (go "body: structured form requires \"file\" or \"dir\"")
  else if file ≠ [] ∧ dir ≠ [] then
    .error (go "body: \"file\" and \"dir\" are mutually exclusive")
  else .ok { b with literal := [], file := file, dir := dir }

/-- `UnmarshalYAML`, into the body `b`. -/
def HTTPBody.unmarshalYAML (lib : YAMLLibrary) (b : HTTPBody) :
    YAMLNode → Except GoString HTTPBody
  | .scalar _ value => .ok { b with literal := value, file := [], dir := [] }
  | .mapping content =>
    match lib.decode (.mapping content) with
    | .error err => .error (go "body: " ++ err)
    | .ok spec => b.setStructured spec.file spec.dir
  | _ => .error (go "body: expected a string or a \x7bfile: ...\x7d/\x7bdir: ...\x7d mapping")

/-- The body is a literal, a file or a directory, and not two of them. -/
def HTTPBody.OneForm (b : HTTPBody) : Prop :=
  b.file = [] ∧ b.dir = [] ∨ b.literal = [] ∧ (b.file = [] ∨ b.dir = [])

variable (s : GoString)

lemma newHTTPBodyLiteral_oneForm : (newHTTPBodyLiteral s).OneForm :=
  .inl ⟨rfl, rfl⟩

/-- The recorder keeps the body of the upstream response as a literal, whatever its bytes are. -/
lemma recordedMock_oneForm (n : ℕ) (listener method path : GoString) (query : GoMap GoString)
    (u : UpstreamResponse) : (recordedMock n listener method path query u).response.body.OneForm :=
  newHTTPBodyLiteral_oneForm u.body

/-! ## Round trips -/

section RoundTrip

variable (lib : YAMLLibrary)

lemma YAMLLibrary.validString_binaryText : validString (lib.binaryText s) = true := by
  refine validString_ascii fun c hc => ?_
  by_cases hbreak : isBreak c = true
  · simp only [isBreak, Bool.or_eq_true, beq_iff_eq] at hbreak
    rcases hbreak with rfl | rfl <;> decide
  · have hmem : c ∈ joinLines (lib.binaryText s) :=
      List.mem_filter.mpr ⟨hc, by simpa using hbreak⟩
    rw [lib.joinLines_binaryText] at hmem
    exact isASCII_encode s c hmem

variable (b : HTTPBody)

lemma unmarshalYAML_str :
    b.unmarshalYAML lib (lib.node (.str s)) =
      .ok { b with
        literal := if validString s then s else lib.binaryText s, file := [], dir := [] } := by
  by_cases hvalid : validString s = true <;>
    simp [YAMLLibrary.node, stringNode, unmarshalYAML, hvalid]

lemma unmarshalYAML_file {s : GoString} (hs : s ≠ []) :
    b.unmarshalYAML lib (lib.node (.strMap [(go "file", s)])) =
      .ok { b with literal := [], file := s, dir := [] } := by
  have hkey : stringNode lib.binaryText (go "file") = .scalar .str (go "file") :=
    if_pos (by decide)
  simp [YAMLLibrary.node, hkey, unmarshalYAML, lib.decode_file, setStructured, hs]

lemma unmarshalYAML_dir {s : GoString} (hs : s ≠ []) :
    b.unmarshalYAML lib (lib.node (.strMap [(go "dir", s)])) =
      .ok { b with literal := [], file := [], dir := s } := by
  have hkey : stringNode lib.binaryText (go "dir") = .scalar .str (go "dir") :=
    if_pos (by decide)
  simp [YAMLLibrary.node, hkey, unmarshalYAML, lib.decode_dir, setStructured, hs]

/-- The two bodies have the same content, wherever their files have been resolved to. -/
def HTTPBody.Same (b b' : HTTPBody) : Prop :=
  b.literal = b'.literal ∧ b.file = b'.file ∧ b.dir = b'.dir

/-- A body is saved and read back, into any body. -/
theorem yaml_round_trip_iff {b : HTTPBody} (hb : b.OneForm) (into : HTTPBody) :
    (∃ b', into.unmarshalYAML lib (lib.node b.marshalYAML) = .ok b' ∧ b'.Same b) ↔
      validString b.literal = true := by
  by_cases hfile : b.file = []
  · by_cases hdir : b.dir = []
    · have hstr : b.marshalYAML = .str b.literal := by simp [marshalYAML, hfile, hdir]
      rw [hstr, unmarshalYAML_str]
      constructor
      · rintro ⟨b', hb', hliteral, -, -⟩
        cases hb'
        by_contra hinvalid
        rw [if_neg hinvalid] at hliteral
        exact hinvalid (hliteral ▸ lib.validString_binaryText b.literal)
      · intro hvalid
        exact ⟨_, rfl, if_pos hvalid, hfile.symm, hdir.symm⟩
    · have hliteral : b.literal = [] := by
        rcases hb with ⟨-, h⟩ | ⟨h, -⟩
        · exact absurd h hdir
        · exact h
      have hmap : b.marshalYAML = .strMap [(go "dir", b.dir)] := by
        simp [marshalYAML, hfile, hdir]
      rw [hmap, unmarshalYAML_dir lib into hdir, hliteral]
      exact iff_of_true ⟨_, rfl, hliteral.symm, hfile.symm, rfl⟩ rfl
  · have hother : b.literal = [] ∧ b.dir = [] := by
      rcases hb with ⟨h, -⟩ | ⟨h, h' | h'⟩
      · exact absurd h hfile
      · exact absurd h' hfile
      · exact ⟨h, h'⟩
    have hmap : b.marshalYAML = .strMap [(go "file", b.file)] := by
      simp [marshalYAML, hfile]
    rw [hmap, unmarshalYAML_file lib into hfile, hother.1]
    exact iff_of_true ⟨_, rfl, hother.1.symm, rfl, hother.2.symm⟩ rfl

theorem yaml_round_trip_references :
    (∃ b', unmarshalYAML unfoldedYAML {}
        (unfoldedYAML.node (marshalYAML { file := go "./caf\u00e9.html" })) = .ok b' ∧
      b'.Same { file := go "./caf\u00e9.html" }) ∧
    ∃ b', unmarshalYAML unfoldedYAML {}
        (unfoldedYAML.node (newHTTPBodyLiteral (go "null\n")).marshalYAML) = .ok b' ∧
      b'.Same (newHTTPBodyLiteral (go "null\n")) :=
  ⟨(yaml_round_trip_iff unfoldedYAML (.inr ⟨rfl, .inr rfl⟩) {}).mpr (by decide),
    (yaml_round_trip_iff unfoldedYAML (newHTTPBodyLiteral_oneForm _) {}).mpr (by decide)⟩

def recordedPicture : HTTPMock :=
  recordedMock 1 [] (go "GET") (go "/logo.png") ∅ (plainResponse 200 [0x89, 0x50, 0x4E, 0x47])

/-- It comes back as eight letters. -/
theorem recorded_picture_changes :
    recordedPicture.response.body.OneForm ∧
      unmarshalYAML unfoldedYAML {}
          (unfoldedYAML.node recordedPicture.response.body.marshalYAML) =
        .ok (newHTTPBodyLiteral (go "iVBORw==")) ∧
      ¬ ∃ b', unmarshalYAML unfoldedYAML {}
          (unfoldedYAML.node recordedPicture.response.body.marshalYAML) = .ok b' ∧
        b'.Same recordedPicture.response.body := by
  have hback : unmarshalYAML unfoldedYAML {}
      (unfoldedYAML.node recordedPicture.response.body.marshalYAML) =
        .ok (newHTTPBodyLiteral (go "iVBORw==")) := by decide
  refine ⟨recordedMock_oneForm _ _ _ _ _ _, hback, ?_⟩
  rintro ⟨b', hb', hliteral, -, -⟩
  rw [hback] at hb'
  cases hb'
  exact absurd hliteral (by decide)

end RoundTrip

end Mockly
