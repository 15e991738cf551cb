import RemoteStack.Layout.Catalog

/-!
# The known layouts

The declarations of every object that the interpreter releases 2.4 to 3.1 hold a stack in.
Names follow the headers of the interpreter, so that a layout report can be compared with
them. Releases that differ in a part of an object share the lists of the other parts.
-/

namespace RemoteStack

/-! ## Declarations by type -/

namespace FieldDecl

def pointer (name : String) : FieldDecl := ⟨name, .address⟩
def int (name : String) : FieldDecl := ⟨name, .integer .int⟩
def long (name : String) : FieldDecl := ⟨name, .integer .long⟩
def word (name : String) : FieldDecl := ⟨name, .integer .word⟩
def byte (name : String) : FieldDecl := ⟨name, .integer .byte⟩
def items (name : String) (item : ItemKind) : FieldDecl := ⟨name, .items item⟩

end FieldDecl

namespace Catalog

open FieldDecl

/-! ## Heads -/

/-- The head of every object. -/
def objectHead : List FieldDecl := [word "ob_refcnt", pointer "ob_type"]

/-- The head of an object with a trailing array. -/
def sizedHead : List FieldDecl := objectHead ++ [word "ob_size"]

/-! ## Code and functions -/

def codeCounts2 : List FieldDecl :=
  [int "co_argcount", int "co_nlocals", int "co_stacksize", int "co_flags"]

def codeCounts3 : List FieldDecl :=
  [int "co_argcount", int "co_kwonlyargcount", int "co_nlocals", int "co_stacksize",
   int "co_flags"]

def codeBody : List FieldDecl :=
  [pointer "co_code", pointer "co_consts", pointer "co_names", pointer "co_varnames",
   pointer "co_freevars", pointer "co_cellvars", pointer "co_filename", pointer "co_name",
   int "co_firstlineno", pointer "co_lnotab"]

def codeTail3 : List FieldDecl := [pointer "co_zombieframe"]

/-! ## Frames -/

def frameBody : List FieldDecl :=
  [pointer "f_back", pointer "f_code", pointer "f_builtins", pointer "f_globals",
   pointer "f_locals", pointer "f_valuestack", pointer "f_stacktop", pointer "f_trace",
   pointer "f_exc_type", pointer "f_exc_value", pointer "f_exc_traceback",
   pointer "f_tstate", int "f_lasti", int "f_lineno"]

/-- The stack of blocks: twenty structures of three `int`s. -/
def blockStack : FieldDecl := ⟨"f_blockstack", .struct 240 4⟩

def frameTail24 : List FieldDecl :=
  [int "f_restricted", int "f_iblock", blockStack, int "f_nlocals", int "f_ncells",
   int "f_nfreevars", int "f_stacksize", items "f_localsplus" .address]

def frameTail : List FieldDecl :=
  [int "f_iblock", blockStack, items "f_localsplus" .address]

/-! ## Thread states -/

def threadHead : List FieldDecl :=
  [pointer "next", pointer "interp", pointer "frame", int "recursion_depth"]

def overflowFlags : List FieldDecl := [byte "overflowed", byte "recursion_critical"]

def threadBody : List FieldDecl :=
  [int "tracing", int "use_tracing", pointer "c_profilefunc", pointer "c_tracefunc",
   pointer "c_profileobj", pointer "c_traceobj", pointer "curexc_type",
   pointer "curexc_value", pointer "curexc_traceback", pointer "exc_type",
   pointer "exc_value", pointer "exc_traceback", pointer "dict", int "tick_counter",
   int "gilstate_counter", pointer "async_exc", long "thread_id"]

/-! ## Texts, numbers and containers -/

def stringBody : List FieldDecl := [long "ob_shash", int "ob_sstate", items "ob_sval" .char]
def bytesBody : List FieldDecl := [long "ob_shash", items "ob_sval" .char]
def unicodeBody : List FieldDecl := [word "length", pointer "str", long "hash"]
def tupleBody : List FieldDecl := [items "ob_item" .address]
def intBody : List FieldDecl := [long "ob_ival"]
def longBody15 : List FieldDecl := [items "ob_digit" .digit15]
def longBody30 : List FieldDecl := [items "ob_digit" .digit30]

/-! ## Types and built-in functions -/

def typeSlots : List FieldDecl :=
  [pointer "tp_name", word "tp_basicsize", word "tp_itemsize", pointer "tp_dealloc",
   pointer "tp_print", pointer "tp_getattr", pointer "tp_setattr", pointer "tp_compare",
   pointer "tp_repr", pointer "tp_as_number", pointer "tp_as_sequence",
   pointer "tp_as_mapping", pointer "tp_hash", pointer "tp_call", pointer "tp_str",
   pointer "tp_getattro", pointer "tp_setattro", pointer "tp_as_buffer", long "tp_flags",
   pointer "tp_doc", pointer "tp_traverse", pointer "tp_clear", pointer "tp_richcompare",
   word "tp_weaklistoffset", pointer "tp_iter", pointer "tp_iternext",
   pointer "tp_methods", pointer "tp_members", pointer "tp_getset", pointer "tp_base",
   pointer "tp_dict", pointer "tp_descr_get", pointer "tp_descr_set",
   word "tp_dictoffset", pointer "tp_init", pointer "tp_alloc", pointer "tp_new",
   pointer "tp_free", pointer "tp_is_gc", pointer "tp_bases", pointer "tp_mro",
   pointer "tp_cache", pointer "tp_subclasses", pointer "tp_weaklist", pointer "tp_del"]

def typeVersionTag : List FieldDecl := [int "tp_version_tag"]

def builtinFunctionBody : List FieldDecl := [pointer "m_ml", pointer "m_self", pointer "m_module"]
def methodBody : List FieldDecl := [pointer "ml_name"]

/-! ## The entries -/

def r24 : Release := ⟨2, 4⟩
def r25 : Release := ⟨2, 5⟩
def r26 : Release := ⟨2, 6⟩
def r27 : Release := ⟨2, 7⟩
def r30 : Release := ⟨3, 0⟩
def r31 : Release := ⟨3, 1⟩

/-- Every supported release. -/
def anyRelease : ReleaseRange := ⟨r24, r31⟩

/-- The catalog of the supported releases. The frames of 2.4 and the types from 2.6 on have
entries of their own inside the range of a wider one. -/
def builtin : Catalog := .ofEntries
  [⟨.object, anyRelease, [], [objectHead]⟩,
   ⟨.code, ⟨r24, r27⟩, [r24, r27], [objectHead, codeCounts2, codeBody]⟩,
   ⟨.code, ⟨r30, r31⟩, [r30, r31], [objectHead, codeCounts3, codeBody, codeTail3]⟩,
   ⟨.function, anyRelease, [], [objectHead, [pointer "func_code"]]⟩,
   ⟨.frame, anyRelease, [r25, r31], [sizedHead, frameBody, frameTail]⟩,
   ⟨.frame, .single r24, [r24], [sizedHead, frameBody, frameTail24]⟩,
   ⟨.threadState, .single r24, [r24], [threadHead, threadBody]⟩,
   ⟨.threadState, ⟨r25, r27⟩, [r25, r27], [threadHead, threadBody]⟩,
   ⟨.threadState, ⟨r30, r31⟩, [r30, r31], [threadHead, overflowFlags, threadBody]⟩,
   ⟨.string, ⟨r24, r27⟩, [], [sizedHead, stringBody]⟩,
   ⟨.bytes, ⟨r30, r31⟩, [], [sizedHead, bytesBody]⟩,
   ⟨.unicode, anyRelease, [], [objectHead, unicodeBody]⟩,
   ⟨.tuple, anyRelease, [], [sizedHead, tupleBody]⟩,
   ⟨.type, anyRelease, [r24], [sizedHead, typeSlots]⟩,
   ⟨.type, ⟨r26, r31⟩, [r26], [sizedHead, typeSlots, typeVersionTag]⟩,
   ⟨.int, ⟨r24, r27⟩, [], [objectHead, intBody]⟩,
   ⟨.long, .single r30, [r30], [sizedHead, longBody15]⟩,
   ⟨.long, .single r31, [r31], [sizedHead, longBody30]⟩,
   ⟨.cfunction, anyRelease, [], [objectHead, builtinFunctionBody]⟩,
   ⟨.methodDef, anyRelease, [], [methodBody]⟩]

end Catalog

end RemoteStack
