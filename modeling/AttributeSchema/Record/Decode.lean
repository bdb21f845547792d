import AttributeSchema.Record.Holder
import AttributeSchema.Record.Document
import AttributeSchema.Record.Tree
/-!
# Decoding configurations

A configuration is a JSON tree or a JSON text. It is read as a holder and written onto a native record;
a configuration that cannot be read leaves the record as it is.
-/

namespace AttributeSchema.Record

def readFailure (detail : String) : Diagnostic := ⟨.error, "Failed to read configuration", detail⟩

def ofTree (r : Record) (v : Json.Value) : Except String r.shape.Holder :=
  (Tree.reader r.shape).read r.name v

def ofText (r : Record) (text : String) : Except String r.shape.Holder :=
  (Document.reader r.shape).ofText r.name text

def decodeRead (r : Record) (read : Except String r.shape.Holder) (target : r.shape.Native) :
    r.shape.Native × Diagnostics :=
  match read with
  | .ok h => r.shape.decodeInto h target
  | .error detail => (target, [readFailure detail])

def decodeTree (r : Record) (v : Json.Value) (target : r.shape.Native) :
    r.shape.Native × Diagnostics :=
  r.decodeRead (r.ofTree v) target

def decodeText (r : Record) (text : String) (target : r.shape.Native) :
    r.shape.Native × Diagnostics :=
  r.decodeRead (r.ofText text) target

def encode (r : Record) (value : Option r.shape.Native) : Option r.shape.Holder :=
  value.map r.shape.encode

end AttributeSchema.Record
