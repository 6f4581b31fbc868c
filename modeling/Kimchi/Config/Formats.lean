import Kimchi.Config.LoadedStore

/-!
# The document format

What the `fromJson` functions of `config/loader.cpp` accept, and that every record can
be written.  A `Format` is a reader together with the shape of the documents on which
it does not throw and a writer that it reads back; each record of `config/models.h`
that is read from a document has one.

A missing or mistyped scalar is replaced by its default, so the shapes only ask where
the loader needs an object, an array or, in lists of strings and for `pathType`, a
string.
-/

namespace Kimchi

open Library

theorem str_inj {a b : String} : str a = str b ↔ a = b := by
  unfold str
  constructor
  · intro h
    exact String.toByteArray_inj.mp (ByteArray.ext (Array.toList_inj.mp h))
  · intro h
    rw [h]

/-! ## Shapes -/

namespace Dynamic

/-- The values whose fields can be read. -/
def isObject : Dynamic → Bool
  | object _ => true
  | _ => false

/-- The values whose text can be taken. -/
def isString : Dynamic → Bool
  | string _ => true
  | _ => false

/-- An array whose elements have a shape. -/
def isArrayOf (elem : Dynamic → Bool) : Dynamic → Bool
  | array elems => elems.all elem
  | _ => false

/-- The field has the shape, if it is there. -/
def optional (d : Dynamic) (key : String) (shape : Dynamic → Bool) : Bool := (d.field? key).all shape

/-- The field is there and has the shape. -/
def required (d : Dynamic) (key : String) (shape : Dynamic → Bool) : Bool := (d.field? key).any shape

theorem returns_getPtr (d : Dynamic) (key : String) (p : Option Dynamic → Bool) :
    returns (d.getPtr key) p = (d.isObject && p (d.field? key)) := by
  cases d <;> simp [getPtr, returns, isObject, field?]

theorem returns_index (d : Dynamic) (key : String) (p : Dynamic → Bool) :
    returns (d.index key) p = d.required key p := by
  unfold index
  cases d with
  | object fields =>
      simp only [getPtr, field?, required]
      cases List.lookup (str key) fields <;> rfl
  | _ => rfl

theorem isOk_getString (d : Dynamic) : d.getString.isOk = d.isString := by
  cases d <;> rfl

/-- An object with the given fields. -/
def ofFields (fields : List (String × Dynamic)) : Dynamic := .object (fields.map fun field => (str field.1, field.2))

theorem field?_ofFields (fields : List (String × Dynamic)) (key : String) :
    (ofFields fields).field? key = fields.lookup key := by
  show (fields.map fun field => (str field.1, field.2)).lookup (str key) = fields.lookup key
  induction fields with
  | nil => rfl
  | cons field fields ih =>
      obtain ⟨name, v⟩ := field
      have hkey : (str key == str name) = (key == name) := by
        rw [Bool.eq_iff_iff, beq_iff_eq, beq_iff_eq]
        exact str_inj
      rw [List.map_cons, List.lookup_cons, List.lookup_cons, hkey, ih]

theorem getPtr_ofFields (fields : List (String × Dynamic)) (key : String) :
    (ofFields fields).getPtr key = pure (fields.lookup key) := by
  rw [← field?_ofFields]
  rfl

theorem index_ofFields {fields : List (String × Dynamic)} {key : String} {v : Dynamic}
    (h : fields.lookup key = some v) : (ofFields fields).index key = .ok v := by
  rw [index_eq_ok_iff, field?_ofFields, h]

end Dynamic

namespace Config

variable {α : Type}

/-! ## Fields -/

theorem isOk_getStr (d : Dynamic) (key dflt : String) : (getStr d key dflt).isOk = d.isObject := by
  unfold getStr
  rw [isOk_bind, Dynamic.returns_getPtr]
  split <;> exact Bool.and_true _

theorem isOk_getInt (d : Dynamic) (key : String) (dflt : Int64) : (getInt d key dflt).isOk = d.isObject := by
  unfold getInt
  rw [isOk_bind, Dynamic.returns_getPtr]
  split <;> exact Bool.and_true _

theorem isOk_getBool (d : Dynamic) (key : String) (dflt : Bool) : (getBool d key dflt).isOk = d.isObject := by
  unfold getBool
  rw [isOk_bind, Dynamic.returns_getPtr]
  split <;> exact Bool.and_true _

theorem isOk_sectionOf (d : Dynamic) (key : String) (absent : α) (read : Dynamic → Except DynamicError α) :
    (sectionOf d key absent read).isOk = (d.isObject && d.optional key fun v => (read v).isOk) := by
  unfold sectionOf Dynamic.optional
  rw [isOk_bind, Dynamic.returns_getPtr]
  cases d.field? key <;> rfl

theorem isOk_elementsOf (d : Dynamic) (key : String) (elem : Dynamic → Except DynamicError α) :
    (elementsOf d key elem).isOk =
      (d.isObject && d.optional key (Dynamic.isArrayOf fun v => (elem v).isOk)) := by
  have hsection : elementsOf d key elem =
      sectionOf d key [] fun list => list.iterate >>= fun elems => elems.mapM elem := rfl
  rw [hsection, isOk_sectionOf]
  congr 2
  funext list
  cases list with
  | array elems => exact isOk_mapM elem elems
  | _ => rfl

section Written

variable (fields : List (String × Dynamic)) (key : String)

theorem getStr_ofFields (dflt : String) :
    getStr (.ofFields fields) key dflt = pure (match fields.lookup key with
      | some (.string s) => s
      | _ => str dflt) := by
  rw [getStr, Dynamic.getPtr_ofFields]
  show (match fields.lookup key with
    | some (.string s) => (pure s : Except DynamicError Str)
    | _ => pure (str dflt)) = _
  split <;> rfl

theorem getInt_ofFields (dflt : Int64) :
    getInt (.ofFields fields) key dflt = pure (match fields.lookup key with
      | some (.int64 n) => n
      | _ => dflt) := by
  rw [getInt, Dynamic.getPtr_ofFields]
  show (match fields.lookup key with
    | some (.int64 n) => (pure n : Except DynamicError Int64)
    | _ => pure dflt) = _
  split <;> rfl

theorem getBool_ofFields (dflt : Bool) :
    getBool (.ofFields fields) key dflt = pure (match fields.lookup key with
      | some (.bool b) => b
      | _ => dflt) := by
  rw [getBool, Dynamic.getPtr_ofFields]
  show (match fields.lookup key with
    | some (.bool b) => (pure b : Except DynamicError Bool)
    | _ => pure dflt) = _
  split <;> rfl

end Written

/-- The value a number is written as. -/
def writeInt32 (n : Int32) : Dynamic := .int64 n.toInt64

/-- The value a port is written as. -/
def writeUInt16 (n : UInt16) : Dynamic := .int64 n.toUInt64.toInt64

theorem castInt32_written (n : Int32) : castInt32 n.toInt64 = n := Int32.toInt32_toInt64 n

theorem castUInt16_written (n : UInt16) : castUInt16 n.toUInt64.toInt64 = n := by
  simp [castUInt16]

/-! ## Formats -/

/-- A reader of documents, the shape of those on which it does not throw, and a writer
that it reads back. -/
structure Format (α : Type) where
  read : Dynamic → Except DynamicError α
  shape : Dynamic → Bool
  write : α → Dynamic
  isOk_read : ∀ d, (read d).isOk = shape d
  read_write : ∀ x, read (write x) = .ok x

namespace Format

/-- A string. -/
@[reducible] def text : Format Str where
  read := Dynamic.getString
  shape := Dynamic.isString
  write := .string
  isOk_read := Dynamic.isOk_getString
  read_write _ := rfl

variable (F : Format α)

/-- A list is written as an array. -/
def writeAll (xs : List α) : Dynamic := .array (xs.map F.write)

theorem isOk_elementsOf (d : Dynamic) (key : String) :
    (elementsOf d key F.read).isOk = (d.isObject && d.optional key (Dynamic.isArrayOf F.shape)) := by
  rw [Config.isOk_elementsOf, funext F.isOk_read]

theorem isOk_sectionOf (d : Dynamic) (key : String) (absent : α) :
    (sectionOf d key absent F.read).isOk = (d.isObject && d.optional key F.shape) := by
  rw [Config.isOk_sectionOf, funext F.isOk_read]

theorem elementsOf_ofFields {fields : List (String × Dynamic)} {key : String} {xs : List α}
    (h : fields.lookup key = some (F.writeAll xs)) : elementsOf (.ofFields fields) key F.read = pure xs := by
  have hall : (xs.map F.write).mapM F.read = .ok xs := by
    rw [mapM_eq_ok_iff, List.forall₂_map_left_iff]
    exact List.forall₂_same.mpr fun x _ => F.read_write x
  rw [elementsOf, Dynamic.getPtr_ofFields, h]
  exact hall

theorem sectionOf_ofFields {fields : List (String × Dynamic)} {key : String} {absent x : α}
    (h : fields.lookup key = some (F.write x)) : sectionOf (.ofFields fields) key absent F.read = pure x := by
  rw [sectionOf, Dynamic.getPtr_ofFields, h]
  exact F.read_write x

theorem mapM_written (x : Option α) : (x.map F.write).mapM F.read = pure x := by
  cases x with
  | none => rfl
  | some x =>
      show (F.read (F.write x) >>= fun y => pure (some y)) = pure (some x)
      rw [F.read_write]
      rfl

/-- A member of an object that is written when there is something to write. -/
def member (key : String) (x : Option α) : List (String × Dynamic) := x.toList.map fun v => (key, F.write v)

theorem lookup_member_self (key : String) (x : Option α) : (F.member key x).lookup key = x.map F.write := by
  cases x with
  | none => rfl
  | some v => exact List.lookup_cons_self

theorem lookup_member_of_ne {key key' : String} (h : (key' == key) = false) (x : Option α) :
    (F.member key x).lookup key' = none := by
  cases x with
  | none => rfl
  | some v =>
      show List.lookup key' [(key, F.write v)] = none
      rw [List.lookup_cons, h]
      rfl

end Format

/-- The `metadata` of a resource. -/
@[reducible] def Metadata.format : Format Metadata where
  read := Metadata.fromJson
  shape := Dynamic.isObject
  write m := .ofFields [("name", .string m.name)]
  isOk_read d := by
    simp only [fromJson, isOk_bind, isOk_getStr, isOk_pure, returns_const, Bool.and_true]
  read_write m := by
    simp only [fromJson, getStr_ofFields, pure_bind, List.lookup_cons, beq_self_eq_true]
    rfl

/-- A certificate reference. -/
@[reducible] def TlsCertificate.format : Format TlsCertificate where
  read := TlsCertificate.fromJson
  shape := Dynamic.isObject
  write c := .ofFields [("certRef", .string c.certRef), ("keyRef", .string c.keyRef)]
  isOk_read d := by
    simp only [fromJson, isOk_bind, isOk_getStr, isOk_pure, returns_const, Bool.and_true, Bool.and_self]
  read_write c := by
    simp only [fromJson, getStr_ofFields, pure_bind, List.lookup_cons, String.reduceBEq, beq_self_eq_true]
    rfl

/-- The section `tls`. -/
@[reducible] def TlsConfig.format : Format TlsConfig where
  read := TlsConfig.fromJson
  shape d := d.isObject && d.optional "certificates" (Dynamic.isArrayOf TlsCertificate.format.shape)
  write tls := .ofFields [("mode", .string tls.mode), ("minVersion", .string tls.minVersion),
    ("certificates", TlsCertificate.format.writeAll tls.certificates)]
  isOk_read d := by
    simp only [fromJson, isOk_bind, isOk_getStr, TlsCertificate.format.isOk_elementsOf, isOk_pure, returns_const,
      Bool.and_true, Bool.and_self_left]
  read_write tls := by
    rw [fromJson, TlsCertificate.format.elementsOf_ofFields rfl]
    simp only [getStr_ofFields, pure_bind, List.lookup_cons, String.reduceBEq, beq_self_eq_true]
    rfl

/-- The section `connection`. -/
@[reducible] def ConnectionConfig.format : Format ConnectionConfig where
  read := ConnectionConfig.fromJson
  shape := Dynamic.isObject
  write conn := .ofFields [("readTimeout", .string conn.readTimeout), ("writeTimeout", .string conn.writeTimeout),
    ("maxConnections", writeInt32 conn.maxConnections)]
  isOk_read d := by
    simp only [fromJson, isOk_bind, isOk_getStr, isOk_getInt, isOk_pure, returns_const, Bool.and_true, Bool.and_self]
  read_write conn := by
    simp only [fromJson, getStr_ofFields, getInt_ofFields, pure_bind, List.lookup_cons, String.reduceBEq,
      beq_self_eq_true, writeInt32, castInt32_written]
    rfl

/-! ## Resources -/

/-- The shape of a resource with a section `spec` of a shape. -/
def resourceShape (spec : Dynamic → Bool) (d : Dynamic) : Bool :=
  d.isObject && d.optional "metadata" Metadata.format.shape && d.required "spec" spec

/-- A resource with a section `spec`. -/
def writeResource (apiVersion kind : Str) (metadata : Metadata) (spec : Dynamic) : Dynamic :=
  .ofFields [("apiVersion", .string apiVersion), ("kind", .string kind), ("metadata", Metadata.format.write metadata),
    ("spec", spec)]

section Resource

variable {rest : Str → Str → Metadata → Dynamic → Except DynamicError α}

/-- The beginning of every `fromJson` of a resource throws unless there is a `spec`. -/
theorem isOk_resource {spec : Dynamic → Bool} (h : ∀ apiVersion kind metadata node,
    (rest apiVersion kind metadata node).isOk = spec node) (d : Dynamic) :
    (do
      let apiVersion ← getStr d "apiVersion"
      let kind ← getStr d "kind"
      let metadata ← metadataOf d
      let node ← d.index "spec"
      rest apiVersion kind metadata node).isOk = resourceShape spec d := by
  have hmetadata : (metadataOf d).isOk = (d.isObject && d.optional "metadata" Metadata.format.shape) :=
    Metadata.format.isOk_sectionOf d "metadata" {}
  simp only [isOk_bind, isOk_getStr, hmetadata, Dynamic.returns_index, h, returns_const, resourceShape,
    Bool.and_self_left, Bool.and_assoc]

theorem read_writeResource (a k : Str) (m : Metadata) (spec : Dynamic) :
    (do
      let apiVersion ← getStr (writeResource a k m spec) "apiVersion"
      let kind ← getStr (writeResource a k m spec) "kind"
      let metadata ← metadataOf (writeResource a k m spec)
      let node ← (writeResource a k m spec).index "spec"
      rest apiVersion kind metadata node) = rest a k m spec := by
  have hmetadata : metadataOf (writeResource a k m spec) = pure m := Metadata.format.sectionOf_ofFields rfl
  have hspec : (writeResource a k m spec).index "spec" = pure spec := Dynamic.index_ofFields rfl
  rw [hmetadata, hspec]
  simp only [writeResource, getStr_ofFields, pure_bind, List.lookup_cons, String.reduceBEq, beq_self_eq_true]

end Resource

/-- The `spec` of a listener does not throw: its list of host names holds texts, and its
sections have their shapes. -/
def ListenerConfig.specShape (spec : Dynamic) : Bool :=
  spec.isObject && spec.optional "allowedHostnames" (Dynamic.isArrayOf Format.text.shape) &&
    spec.optional "tls" TlsConfig.format.shape && spec.optional "connection" ConnectionConfig.format.shape

/-- A `Listener` document. -/
@[reducible] def ListenerConfig.format : Format ListenerConfig where
  read := ListenerConfig.fromJson
  shape := resourceShape ListenerConfig.specShape
  write cfg := writeResource cfg.apiVersion cfg.kind cfg.metadata (.ofFields ([("protocol", .string cfg.protocol),
    ("port", writeUInt16 cfg.port), ("host", .string cfg.host),
    ("allowedHostnames", Format.text.writeAll cfg.allowedHostnames)] ++
    TlsConfig.format.member "tls" cfg.tls ++ ConnectionConfig.format.member "connection" cfg.connection))
  isOk_read d := by
    refine isOk_resource ?_ d
    intro apiVersion kind metadata spec
    simp only [isOk_bind, isOk_getStr, isOk_getInt, Format.text.isOk_elementsOf, Dynamic.returns_getPtr,
      isOk_optionMapM, TlsConfig.format.isOk_read, ConnectionConfig.format.isOk_read, isOk_pure, returns_const,
      ListenerConfig.specShape, Dynamic.optional, Bool.and_true, Bool.and_self_left, Bool.and_assoc, Bool.and_left_comm]
  read_write cfg := by
    refine Eq.trans (read_writeResource _ _ _ _) ?_
    rw [Format.text.elementsOf_ofFields rfl]
    simp only [getStr_ofFields, getInt_ofFields, Dynamic.getPtr_ofFields, pure_bind, List.lookup_append, List.lookup_cons,
      List.lookup_nil, String.reduceBEq, beq_self_eq_true, TlsConfig.format.lookup_member_self, TlsConfig.format.mapM_written,
      TlsConfig.format.lookup_member_of_ne, ConnectionConfig.format.lookup_member_of_ne,
      ConnectionConfig.format.lookup_member_self, ConnectionConfig.format.mapM_written, Option.or_none, Option.none_or,
      writeUInt16, castUInt16_written]
    rfl

/-- A target of a service. -/
@[reducible] def LoadBalancingTarget.format : Format LoadBalancingTarget where
  read := LoadBalancingTarget.fromJson
  shape := Dynamic.isObject
  write t := .ofFields [("host", .string t.host), ("port", writeUInt16 t.port), ("weight", writeInt32 t.weight)]
  isOk_read d := by
    simp only [fromJson, isOk_bind, isOk_getStr, isOk_getInt, isOk_pure, returns_const, Bool.and_true, Bool.and_self]
  read_write t := by
    simp only [fromJson, getStr_ofFields, getInt_ofFields, pure_bind, List.lookup_cons, String.reduceBEq,
      beq_self_eq_true, writeUInt16, writeInt32, castUInt16_written, castInt32_written]
    rfl

/-- The section `loadBalancing`. -/
@[reducible] def LoadBalancingConfig.format : Format LoadBalancingConfig where
  read := LoadBalancingConfig.fromJson
  shape d := d.isObject && d.optional "targets" (Dynamic.isArrayOf LoadBalancingTarget.format.shape)
  write lb := .ofFields [("algorithm", .string lb.algorithm),
    ("targets", LoadBalancingTarget.format.writeAll lb.targets)]
  isOk_read d := by
    simp only [fromJson, isOk_bind, isOk_getStr, LoadBalancingTarget.format.isOk_elementsOf, isOk_pure, returns_const,
      Bool.and_true, Bool.and_self_left]
  read_write lb := by
    rw [fromJson, LoadBalancingTarget.format.elementsOf_ofFields rfl]
    simp only [getStr_ofFields, pure_bind, List.lookup_cons, beq_self_eq_true]
    rfl

/-- The `spec` of a service does not throw. -/
def ServiceConfig.specShape (spec : Dynamic) : Bool :=
  spec.isObject && spec.optional "loadBalancing" LoadBalancingConfig.format.shape

/-- A `Service` document. -/
@[reducible] def ServiceConfig.format : Format ServiceConfig where
  read := ServiceConfig.fromJson
  shape := resourceShape ServiceConfig.specShape
  write cfg := writeResource cfg.apiVersion cfg.kind cfg.metadata (.ofFields [("protocol", .string cfg.protocol),
    ("loadBalancing", LoadBalancingConfig.format.write cfg.loadBalancing)])
  isOk_read d := by
    rw [ServiceConfig.fromJson_eq]
    refine isOk_resource ?_ d
    intro apiVersion kind metadata spec
    simp only [isOk_bind, isOk_getStr, LoadBalancingConfig.format.isOk_sectionOf, isOk_pure, returns_const,
      ServiceConfig.specShape, Bool.and_true, Bool.and_self_left]
  read_write cfg := by
    rw [ServiceConfig.fromJson_eq, read_writeResource, LoadBalancingConfig.format.sectionOf_ofFields rfl]
    simp only [getStr_ofFields, pure_bind, List.lookup_cons, beq_self_eq_true]
    rfl

/-- The text that names a path type. -/
def PathType.toStr : PathType → Str
  | .exact => str "Exact"
  | .regex => str "Regex"
  | .pathPrefix => str "Prefix"

/-- The text of `pathType`.  Every text is read, and three are written. -/
@[reducible] def PathType.format : Format PathType where
  read pt := PathType.ofStr <$> pt.getString
  shape := Dynamic.isString
  write pt := .string pt.toStr
  isOk_read d := by rw [isOk_map, Dynamic.isOk_getString]
  read_write pt := by
    cases pt with
    | exact => rfl
    | pathPrefix => rfl
    | regex => rfl

theorem RouterRule.fromJson_eq (r : Dynamic) :
    RouterRule.fromJson r = do
      let path ← getStr r "path"
      let pathType ← sectionOf r "pathType" .pathPrefix PathType.format.read
      let methods ← elementsOf r "methods" Dynamic.getString
      return { path, pathType, methods } := by
  unfold RouterRule.fromJson sectionOf
  apply bind_congr
  intro path
  rw [bind_assoc]
  apply bind_congr
  intro pt
  cases pt <;> rfl

/-- A rule of a router. -/
@[reducible] def RouterRule.format : Format RouterRule where
  read := RouterRule.fromJson
  shape d := d.isObject && d.optional "pathType" PathType.format.shape &&
    d.optional "methods" (Dynamic.isArrayOf Format.text.shape)
  write rule := .ofFields [("path", .string rule.path), ("pathType", PathType.format.write rule.pathType),
    ("methods", Format.text.writeAll rule.methods)]
  isOk_read d := by
    rw [RouterRule.fromJson_eq]
    simp only [isOk_bind, isOk_getStr, PathType.format.isOk_sectionOf, Format.text.isOk_elementsOf, isOk_pure,
      returns_const, Bool.and_true, Bool.and_self_left, Bool.and_assoc, Bool.and_left_comm]
  read_write rule := by
    rw [RouterRule.fromJson_eq, PathType.format.sectionOf_ofFields rfl, Format.text.elementsOf_ofFields rfl]
    simp only [getStr_ofFields, pure_bind, List.lookup_cons, beq_self_eq_true]
    rfl

/-- The section `rewrite`. -/
@[reducible] def RewriteConfig.format : Format RewriteConfig where
  read := RewriteConfig.fromJson
  shape := Dynamic.isObject
  write rw := .ofFields [("path", .string rw.path), ("host", .string rw.host)]
  isOk_read d := by
    simp only [fromJson, isOk_bind, isOk_getStr, isOk_pure, returns_const, Bool.and_true, Bool.and_self]
  read_write rw := by
    simp only [fromJson, getStr_ofFields, pure_bind, List.lookup_cons, String.reduceBEq, beq_self_eq_true]
    rfl

/-- The kind and the name of `destinationRef`. -/
@[reducible] def destinationRefFormat : Format (Str × Str) where
  read ref := do pure (← getStr ref "kind" "Service", ← getStr ref "name")
  shape := Dynamic.isObject
  write ref := .ofFields [("kind", .string ref.1), ("name", .string ref.2)]
  isOk_read d := by
    simp only [isOk_bind, isOk_getStr, isOk_pure, returns_const, Bool.and_true, Bool.and_self]
  read_write ref := by
    simp only [getStr_ofFields, pure_bind, List.lookup_cons, String.reduceBEq, beq_self_eq_true]
    rfl

theorem RouterDestination.fromJson_eq (dest : Dynamic) :
    RouterDestination.fromJson dest = do
      let ref ← sectionOf dest "destinationRef" (str "Service", []) destinationRefFormat.read
      let weight ← getInt dest "weight" 100
      let rewrite ← (← dest.getPtr "rewrite").mapM RewriteConfig.fromJson
      return { destinationKind := ref.1, destinationName := ref.2, weight := castInt32 weight, rewrite } := by
  unfold RouterDestination.fromJson sectionOf
  rw [bind_assoc]
  apply bind_congr
  intro ref
  cases ref with
  | none => rfl
  | some ref => simp only [bind_assoc, pure_bind]

/-- A destination of a router. -/
@[reducible] def RouterDestination.format : Format RouterDestination where
  read := RouterDestination.fromJson
  shape d := d.isObject && d.optional "destinationRef" destinationRefFormat.shape &&
    d.optional "rewrite" RewriteConfig.format.shape
  write dest := .ofFields ([("destinationRef", destinationRefFormat.write (dest.destinationKind, dest.destinationName)),
    ("weight", writeInt32 dest.weight)] ++ RewriteConfig.format.member "rewrite" dest.rewrite)
  isOk_read d := by
    rw [RouterDestination.fromJson_eq]
    simp only [isOk_bind, isOk_getInt, destinationRefFormat.isOk_sectionOf, Dynamic.returns_getPtr, isOk_optionMapM,
      RewriteConfig.format.isOk_read, isOk_pure, returns_const, Dynamic.optional, Bool.and_true, Bool.and_self_left,
      Bool.and_assoc, Bool.and_left_comm]
  read_write dest := by
    rw [RouterDestination.fromJson_eq, destinationRefFormat.sectionOf_ofFields rfl]
    simp only [getInt_ofFields, Dynamic.getPtr_ofFields, pure_bind, List.lookup_append, List.lookup_cons,
      List.lookup_nil, String.reduceBEq, beq_self_eq_true, RewriteConfig.format.lookup_member_self,
      RewriteConfig.format.mapM_written, Option.some_or, Option.none_or, writeInt32, castInt32_written]
    rfl

/-- The name of `targetRef`. -/
@[reducible] def targetRefFormat : Format Str where
  read ref := getStr ref "name"
  shape := Dynamic.isObject
  write name := .ofFields [("name", .string name)]
  isOk_read d := isOk_getStr d "name" ""
  read_write name := by
    rw [getStr_ofFields, List.lookup_cons_self]
    rfl

/-- The destinations of the section `config`. -/
@[reducible] def destinationsFormat : Format (List RouterDestination) where
  read conf := elementsOf conf "destinations" RouterDestination.fromJson
  shape d := d.isObject && d.optional "destinations" (Dynamic.isArrayOf RouterDestination.format.shape)
  write dests := .ofFields [("destinations", RouterDestination.format.writeAll dests)]
  isOk_read d := RouterDestination.format.isOk_elementsOf d "destinations"
  read_write _ := RouterDestination.format.elementsOf_ofFields rfl

/-- The `spec` of a router does not throw. -/
def RouterConfig.specShape (spec : Dynamic) : Bool :=
  spec.isObject && spec.optional "targetRef" targetRefFormat.shape &&
    spec.optional "rules" (Dynamic.isArrayOf RouterRule.format.shape) &&
    spec.optional "config" destinationsFormat.shape &&
    spec.optional "policies" (Dynamic.isArrayOf Format.text.shape)

/-- A `Router` document. -/
@[reducible] def RouterConfig.format : Format RouterConfig where
  read := RouterConfig.fromJson
  shape := resourceShape RouterConfig.specShape
  write cfg := writeResource cfg.apiVersion cfg.kind cfg.metadata (.ofFields
    [("targetRef", targetRefFormat.write cfg.targetRefName), ("rules", RouterRule.format.writeAll cfg.rules),
      ("config", destinationsFormat.write cfg.destinations), ("policies", Format.text.writeAll cfg.policies)])
  isOk_read d := by
    rw [RouterConfig.fromJson_eq]
    refine isOk_resource ?_ d
    intro apiVersion kind metadata spec
    simp only [isOk_bind, targetRefFormat.isOk_sectionOf, RouterRule.format.isOk_elementsOf,
      destinationsFormat.isOk_sectionOf, Format.text.isOk_elementsOf, isOk_pure, returns_const,
      RouterConfig.specShape, Bool.and_true, Bool.and_self_left, Bool.and_assoc, Bool.and_left_comm]
  read_write cfg := by
    rw [RouterConfig.fromJson_eq, read_writeResource, targetRefFormat.sectionOf_ofFields rfl,
      RouterRule.format.elementsOf_ofFields rfl, destinationsFormat.sectionOf_ofFields rfl,
      Format.text.elementsOf_ofFields rfl]
    simp only [pure_bind]
    rfl

/-- The section `jwt`. -/
@[reducible] def JwtConfig.format : Format JwtConfig where
  read := JwtConfig.fromJson
  shape := Dynamic.isObject
  write jwt := .ofFields [("jwksUri", .string jwt.jwksUri), ("issuer", .string jwt.issuer),
    ("audience", .string jwt.audience), ("cacheTtlSeconds", writeInt32 jwt.cacheTtlSeconds)]
  isOk_read d := by
    simp only [fromJson, isOk_bind, isOk_getStr, isOk_getInt, isOk_pure, returns_const, Bool.and_true, Bool.and_self]
  read_write jwt := by
    simp only [fromJson, getStr_ofFields, getInt_ofFields, pure_bind, List.lookup_cons, String.reduceBEq,
      beq_self_eq_true, writeInt32, castInt32_written]
    rfl

/-- The section `security`. -/
@[reducible] def SecurityPolicySpec.format : Format SecurityPolicySpec where
  read := SecurityPolicySpec.fromJson
  shape d := d.isObject && d.optional "jwt" JwtConfig.format.shape
  write sec := .ofFields (JwtConfig.format.member "jwt" sec.jwt)
  isOk_read d := by
    simp only [fromJson, isOk_bind, Dynamic.returns_getPtr, isOk_optionMapM, JwtConfig.format.isOk_read, isOk_pure,
      returns_const, Dynamic.optional, Bool.and_true]
  read_write sec := by
    simp only [fromJson, Dynamic.getPtr_ofFields, pure_bind, JwtConfig.format.lookup_member_self,
      JwtConfig.format.mapM_written]
    rfl

/-- The `spec` of a policy does not throw. -/
def PolicyConfig.specShape (spec : Dynamic) : Bool :=
  spec.isObject && spec.optional "security" SecurityPolicySpec.format.shape

/-- A `Policy` document. -/
@[reducible] def PolicyConfig.format : Format PolicyConfig where
  read := PolicyConfig.fromJson
  shape := resourceShape PolicyConfig.specShape
  write cfg := writeResource cfg.apiVersion cfg.kind cfg.metadata (.ofFields ([("order", writeInt32 cfg.spec.order)] ++
    SecurityPolicySpec.format.member "security" cfg.spec.security))
  isOk_read d := by
    refine isOk_resource ?_ d
    intro apiVersion kind metadata spec
    simp only [isOk_bind, isOk_getInt, Dynamic.returns_getPtr, isOk_optionMapM, SecurityPolicySpec.format.isOk_read,
      isOk_pure, returns_const, PolicyConfig.specShape, Dynamic.optional, Bool.and_true, Bool.and_self_left]
  read_write cfg := by
    refine Eq.trans (read_writeResource _ _ _ _) ?_
    simp only [getInt_ofFields, Dynamic.getPtr_ofFields, pure_bind, List.lookup_append, List.lookup_cons,
      List.lookup_nil, String.reduceBEq, beq_self_eq_true, SecurityPolicySpec.format.lookup_member_self,
      SecurityPolicySpec.format.mapM_written, Option.some_or, Option.none_or, writeInt32, castInt32_written]
    rfl

/-- The section `accessLog`. -/
@[reducible] def accessLogFormat : Format AccessLogConfig where
  read := AccessLogConfig.fromJson
  shape := Dynamic.isObject
  write al := .ofFields [("enabled", .bool al.enabled), ("format", .string al.format)]
  isOk_read d := by
    simp only [AccessLogConfig.fromJson, isOk_bind, isOk_getBool, isOk_getStr, isOk_pure, returns_const, Bool.and_true, Bool.and_self]
  read_write al := by
    simp only [AccessLogConfig.fromJson, getBool_ofFields, getStr_ofFields, pure_bind, List.lookup_cons, String.reduceBEq,
      beq_self_eq_true]
    rfl

/-- The access log of the section `observability`. -/
@[reducible] def observabilityFormat : Format AccessLogConfig where
  read obs := sectionOf obs "accessLog" {} AccessLogConfig.fromJson
  shape d := d.isObject && d.optional "accessLog" accessLogFormat.shape
  write al := .ofFields [("accessLog", accessLogFormat.write al)]
  isOk_read d := accessLogFormat.isOk_sectionOf d "accessLog" {}
  read_write _ := accessLogFormat.sectionOf_ofFields rfl

/-- The section `server`. -/
@[reducible] def ServerTuningConfig.format : Format ServerTuningConfig where
  read := ServerTuningConfig.fromJson
  shape := Dynamic.isObject
  write srv := .ofFields [("workerThreads", writeInt32 srv.workerThreads), ("idleTimeoutMs", writeInt32 srv.idleTimeoutMs),
    ("listenBacklog", writeInt32 srv.listenBacklog), ("maxConcurrentStreams", writeInt32 srv.maxConcurrentStreams),
    ("initialReceiveWindowBytes", writeInt32 srv.initialReceiveWindowBytes), ("useZeroCopy", .bool srv.useZeroCopy)]
  isOk_read d := by
    simp only [fromJson, isOk_bind, isOk_getInt, isOk_getBool, isOk_pure, returns_const, Bool.and_true, Bool.and_self]
  read_write srv := by
    simp only [fromJson, getInt_ofFields, getBool_ofFields, pure_bind, List.lookup_cons, String.reduceBEq,
      beq_self_eq_true, writeInt32, castInt32_written]
    rfl

/-- The `spec` of a gateway does not throw. -/
def GatewayConfig.specShape (spec : Dynamic) : Bool :=
  spec.isObject && spec.optional "observability" observabilityFormat.shape &&
    spec.optional "server" ServerTuningConfig.format.shape

/-- A `Gateway` document. -/
@[reducible] def GatewayConfig.format : Format GatewayConfig where
  read := GatewayConfig.fromJson
  shape := resourceShape GatewayConfig.specShape
  write cfg := writeResource cfg.apiVersion cfg.kind cfg.metadata (.ofFields
    [("observability", observabilityFormat.write cfg.accessLog), ("server", ServerTuningConfig.format.write cfg.server)])
  isOk_read d := by
    rw [GatewayConfig.fromJson_eq]
    refine isOk_resource ?_ d
    intro apiVersion kind metadata spec
    simp only [isOk_bind, observabilityFormat.isOk_sectionOf, ServerTuningConfig.format.isOk_sectionOf, isOk_pure,
      returns_const, GatewayConfig.specShape, Bool.and_true, Bool.and_self_left, Bool.and_assoc, Bool.and_left_comm]
  read_write cfg := by
    rw [GatewayConfig.fromJson_eq, read_writeResource, observabilityFormat.sectionOf_ofFields rfl,
      ServerTuningConfig.format.sectionOf_ofFields rfl]
    simp only [pure_bind]
    rfl

end Config
end Kimchi
