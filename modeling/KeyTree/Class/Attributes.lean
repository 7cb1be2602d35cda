/-
# Attributes of classes

What leads on from a class: for each class the class that it extends, and those of its
attributes that differ from the attributes of that class. They are listed by the class of
the object; under `class` each name stands with the class that it leads to.
-/

namespace KeyTree

/-- The class that each class extends, and its own attributes by their class. -/
def classAttributes : List (String × String × List (String × String)) :=
  [("_io:BufferedRWPair", "_io:_BufferedIOBase",
    [("builtins:method_descriptor", "peek"),
     ("builtins:str", "__text_signature__")]),
   ("_io:BufferedRandom", "_io:_BufferedIOBase",
    [("builtins:getset_descriptor", "mode name"),
     ("builtins:member_descriptor", "_finalizing raw"),
     ("builtins:method_descriptor", "_dealloc_warn peek"),
     ("builtins:str", "__text_signature__")]),
   ("_io:BufferedReader", "_io:_BufferedIOBase",
    [("builtins:getset_descriptor", "mode name"),
     ("builtins:member_descriptor", "_finalizing raw"),
     ("builtins:method_descriptor", "_dealloc_warn peek"),
     ("builtins:str", "__text_signature__")]),
   ("_io:BufferedWriter", "_io:_BufferedIOBase",
    [("builtins:getset_descriptor", "mode name"),
     ("builtins:member_descriptor", "_finalizing raw"),
     ("builtins:method_descriptor", "_dealloc_warn"),
     ("builtins:str", "__text_signature__")]),
   ("_io:BytesIO", "_io:_BufferedIOBase",
    [("builtins:method_descriptor", "__setstate__ getbuffer getvalue"),
     ("builtins:str", "__text_signature__")]),
   ("_io:FileIO", "_io:_RawIOBase",
    [("builtins:getset_descriptor", "closefd mode"),
     ("builtins:member_descriptor", "_blksize _finalizing"),
     ("builtins:method_descriptor", "_dealloc_warn"),
     ("builtins:str", "__text_signature__")]),
   ("_io:IncrementalNewlineDecoder", "builtins:object",
    [("builtins:getset_descriptor", "newlines"),
     ("builtins:method_descriptor", "decode getstate reset setstate")]),
   ("_io:StringIO", "_io:_TextIOBase",
    [("builtins:getset_descriptor", "line_buffering"),
     ("builtins:method_descriptor", "__setstate__ getvalue"),
     ("builtins:str", "__text_signature__")]),
   ("_io:TextIOWrapper", "_io:_TextIOBase",
    [("builtins:getset_descriptor", "_CHUNK_SIZE name"),
     ("builtins:member_descriptor", "_finalizing buffer encoding line_buffering write_through"),
     ("builtins:method_descriptor", "reconfigure"),
     ("builtins:str", "__text_signature__")]),
   ("_io:_BufferedIOBase", "_io:_IOBase",
    [("builtins:method_descriptor", "detach read read1 readinto readinto1 write")]),
   ("_io:_IOBase", "builtins:object",
    [("builtins:NoneType", "__text_signature__"),
     ("builtins:getset_descriptor", "closed"),
     ("builtins:method_descriptor",
       "__enter__ __exit__ _checkClosed _checkReadable _checkSeekable _checkWritable close " ++
       "fileno flush isatty readable readline readlines seek seekable tell truncate writable " ++
       "writelines"),
     ("builtins:wrapper_descriptor", "__del__ __iter__ __next__")]),
   ("_io:_RawIOBase", "_io:_IOBase",
    [("builtins:method_descriptor", "read readall readinto write")]),
   ("_io:_TextIOBase", "_io:_IOBase",
    [("builtins:getset_descriptor", "encoding errors newlines"),
     ("builtins:method_descriptor", "detach read write")]),
   ("abc:ABC", "builtins:object",
    [("_abc:_abc_data", "_abc_impl"),
     ("builtins:NoneType", "__text_signature__"),
     ("builtins:dict", "__annotations__"),
     ("builtins:frozenset", "__abstractmethods__"),
     ("builtins:method",
       "__instancecheck__ __subclasscheck__ _abc_caches_clear _abc_registry_clear " ++
       "_dump_registry register"),
     ("builtins:tuple", "__slots__")]),
   ("abc:ABCMeta", "builtins:type",
    [("builtins:dict", "__annotations__"),
     ("builtins:function",
       "__instancecheck__ __new__ __subclasscheck__ _abc_caches_clear _abc_registry_clear " ++
       "_dump_registry register")]),
   ("builtins:ArithmeticError", "builtins:Exception",
    []),
   ("builtins:AssertionError", "builtins:Exception",
    []),
   ("builtins:AttributeError", "builtins:Exception",
    [("builtins:member_descriptor", "name obj")]),
   ("builtins:BaseException", "builtins:object",
    [("builtins:NoneType", "__text_signature__"),
     ("builtins:getset_descriptor", "__cause__ __context__ __traceback__ args"),
     ("builtins:member_descriptor", "__suppress_context__"),
     ("builtins:method_descriptor", "__setstate__ add_note with_traceback")]),
   ("builtins:BaseExceptionGroup", "builtins:BaseException",
    [("builtins:builtin_function_or_method", "__class_getitem__"),
     ("builtins:member_descriptor", "exceptions message"),
     ("builtins:method_descriptor", "derive split subgroup")]),
   ("builtins:BlockingIOError", "builtins:OSError",
    []),
   ("builtins:BrokenPipeError", "builtins:ConnectionError",
    []),
   ("builtins:BufferError", "builtins:Exception",
    []),
   ("builtins:BytesWarning", "builtins:Warning",
    []),
   ("builtins:ChildProcessError", "builtins:OSError",
    []),
   ("builtins:ConnectionAbortedError", "builtins:ConnectionError",
    []),
   ("builtins:ConnectionError", "builtins:OSError",
    []),
   ("builtins:ConnectionRefusedError", "builtins:ConnectionError",
    []),
   ("builtins:ConnectionResetError", "builtins:ConnectionError",
    []),
   ("builtins:DeprecationWarning", "builtins:Warning",
    []),
   ("builtins:EOFError", "builtins:Exception",
    []),
   ("builtins:EncodingWarning", "builtins:Warning",
    []),
   ("builtins:Exception", "builtins:BaseException",
    []),
   ("builtins:ExceptionGroup", "builtins:BaseExceptionGroup",
    [("builtins:NoneType", "__doc__"),
     ("builtins:dict", "__annotations__"),
     ("builtins:getset_descriptor", "__weakref__")]),
   ("builtins:FileExistsError", "builtins:OSError",
    []),
   ("builtins:FileNotFoundError", "builtins:OSError",
    []),
   ("builtins:FloatingPointError", "builtins:ArithmeticError",
    []),
   ("builtins:FutureWarning", "builtins:Warning",
    []),
   ("builtins:GeneratorExit", "builtins:BaseException",
    []),
   ("builtins:ImportError", "builtins:Exception",
    [("builtins:member_descriptor", "msg name path")]),
   ("builtins:ImportWarning", "builtins:Warning",
    []),
   ("builtins:IndentationError", "builtins:SyntaxError",
    []),
   ("builtins:IndexError", "builtins:LookupError",
    []),
   ("builtins:InterruptedError", "builtins:OSError",
    []),
   ("builtins:IsADirectoryError", "builtins:OSError",
    []),
   ("builtins:KeyError", "builtins:LookupError",
    []),
   ("builtins:KeyboardInterrupt", "builtins:BaseException",
    []),
   ("builtins:LookupError", "builtins:Exception",
    []),
   ("builtins:MemoryError", "builtins:Exception",
    []),
   ("builtins:ModuleNotFoundError", "builtins:ImportError",
    []),
   ("builtins:NameError", "builtins:Exception",
    [("builtins:member_descriptor", "name")]),
   ("builtins:NoneType", "builtins:object",
    [("builtins:NoneType", "__doc__ __text_signature__"),
     ("builtins:wrapper_descriptor", "__bool__")]),
   ("builtins:NotADirectoryError", "builtins:OSError",
    []),
   ("builtins:NotImplementedError", "builtins:RuntimeError",
    []),
   ("builtins:NotImplementedType", "builtins:object",
    [("builtins:NoneType", "__doc__ __text_signature__"),
     ("builtins:wrapper_descriptor", "__bool__")]),
   ("builtins:OSError", "builtins:Exception",
    [("builtins:getset_descriptor", "characters_written"),
     ("builtins:member_descriptor", "errno filename filename2 strerror")]),
   ("builtins:OverflowError", "builtins:ArithmeticError",
    []),
   ("builtins:PendingDeprecationWarning", "builtins:Warning",
    []),
   ("builtins:PermissionError", "builtins:OSError",
    []),
   ("builtins:ProcessLookupError", "builtins:OSError",
    []),
   ("builtins:RecursionError", "builtins:RuntimeError",
    []),
   ("builtins:ReferenceError", "builtins:Exception",
    []),
   ("builtins:ResourceWarning", "builtins:Warning",
    []),
   ("builtins:RuntimeError", "builtins:Exception",
    []),
   ("builtins:RuntimeWarning", "builtins:Warning",
    []),
   ("builtins:StopAsyncIteration", "builtins:Exception",
    []),
   ("builtins:StopIteration", "builtins:Exception",
    [("builtins:member_descriptor", "value")]),
   ("builtins:SyntaxError", "builtins:Exception",
    [("builtins:member_descriptor",
       "end_lineno end_offset filename lineno msg offset print_file_and_line text")]),
   ("builtins:SyntaxWarning", "builtins:Warning",
    []),
   ("builtins:SystemError", "builtins:Exception",
    []),
   ("builtins:SystemExit", "builtins:BaseException",
    [("builtins:member_descriptor", "code")]),
   ("builtins:TabError", "builtins:IndentationError",
    []),
   ("builtins:TimeoutError", "builtins:OSError",
    []),
   ("builtins:TypeError", "builtins:Exception",
    []),
   ("builtins:UnboundLocalError", "builtins:NameError",
    []),
   ("builtins:UnicodeDecodeError", "builtins:UnicodeError",
    [("builtins:member_descriptor", "encoding end object reason start")]),
   ("builtins:UnicodeEncodeError", "builtins:UnicodeError",
    [("builtins:member_descriptor", "encoding end object reason start")]),
   ("builtins:UnicodeError", "builtins:ValueError",
    []),
   ("builtins:UnicodeTranslateError", "builtins:UnicodeError",
    [("builtins:member_descriptor", "encoding end object reason start")]),
   ("builtins:UnicodeWarning", "builtins:Warning",
    []),
   ("builtins:UserWarning", "builtins:Warning",
    []),
   ("builtins:ValueError", "builtins:Exception",
    []),
   ("builtins:Warning", "builtins:Exception",
    []),
   ("builtins:ZeroDivisionError", "builtins:ArithmeticError",
    []),
   ("builtins:async_generator", "builtins:object",
    [("builtins:NoneType", "__doc__ __text_signature__"),
     ("builtins:builtin_function_or_method", "__class_getitem__"),
     ("builtins:getset_descriptor", "ag_await ag_frame"),
     ("builtins:member_descriptor", "ag_code ag_running"),
     ("builtins:method_descriptor", "aclose asend athrow"),
     ("builtins:wrapper_descriptor", "__aiter__ __anext__ __del__")]),
   ("builtins:bool", "builtins:int",
    []),
   ("builtins:builtin_function_or_method", "builtins:object",
    [("builtins:NoneType", "__text_signature__"),
     ("builtins:getset_descriptor", "__doc__ __self__"),
     ("builtins:wrapper_descriptor", "__call__")]),
   ("builtins:bytearray", "builtins:object",
    [("builtins:NoneType", "__hash__ __text_signature__"),
     ("builtins:builtin_function_or_method", "fromhex maketrans"),
     ("builtins:method_descriptor",
       "__alloc__ append capitalize center clear copy count decode endswith expandtabs extend " ++
       "find hex index insert isalnum isalpha isascii isdigit islower isspace istitle isupper " ++
       "join ljust lower lstrip partition pop remove removeprefix removesuffix replace " ++
       "reverse rfind rindex rjust rpartition rsplit rstrip split splitlines startswith strip " ++
       "swapcase title translate upper zfill"),
     ("builtins:wrapper_descriptor",
       "__add__ __contains__ __delitem__ __getitem__ __iadd__ __imul__ __iter__ __len__ " ++
       "__mod__ __mul__ __rmod__ __rmul__ __setitem__")]),
   ("builtins:bytes", "builtins:object",
    [("builtins:NoneType", "__text_signature__"),
     ("builtins:builtin_function_or_method", "fromhex maketrans"),
     ("builtins:method_descriptor",
       "__bytes__ __getnewargs__ capitalize center count decode endswith expandtabs find hex " ++
       "index isalnum isalpha isascii isdigit islower isspace istitle isupper join ljust " ++
       "lower lstrip partition removeprefix removesuffix replace rfind rindex rjust " ++
       "rpartition rsplit rstrip split splitlines startswith strip swapcase title translate " ++
       "upper zfill"),
     ("builtins:wrapper_descriptor",
       "__add__ __contains__ __getitem__ __iter__ __len__ __mod__ __mul__ __rmod__ __rmul__")]),
   ("builtins:cell", "builtins:object",
    [("builtins:NoneType", "__hash__"),
     ("builtins:getset_descriptor", "cell_contents")]),
   ("builtins:classmethod", "builtins:object",
    [("builtins:NoneType", "__text_signature__"),
     ("builtins:getset_descriptor", "__isabstractmethod__"),
     ("builtins:member_descriptor", "__func__ __wrapped__"),
     ("builtins:wrapper_descriptor", "__get__")]),
   ("builtins:classmethod_descriptor", "builtins:object",
    [("builtins:NoneType", "__text_signature__"),
     ("builtins:getset_descriptor", "__doc__"),
     ("builtins:member_descriptor", "__objclass__"),
     ("builtins:wrapper_descriptor", "__call__ __get__")]),
   ("builtins:code", "builtins:object",
    [("builtins:getset_descriptor",
       "_co_code_adaptive co_cellvars co_code co_freevars co_lnotab co_varnames"),
     ("builtins:member_descriptor",
       "co_argcount co_consts co_exceptiontable co_filename co_firstlineno co_flags " ++
       "co_kwonlyargcount co_linetable co_name co_names co_nlocals co_posonlyargcount " ++
       "co_qualname co_stacksize"),
     ("builtins:method_descriptor", "_varname_from_oparg co_lines co_positions replace")]),
   ("builtins:complex", "builtins:object",
    [("builtins:member_descriptor", "imag real"),
     ("builtins:method_descriptor", "__complex__ __getnewargs__ conjugate"),
     ("builtins:wrapper_descriptor",
       "__abs__ __add__ __bool__ __mul__ __neg__ __pos__ __pow__ __radd__ __rmul__ __rpow__ " ++
       "__rsub__ __rtruediv__ __sub__ __truediv__")]),
   ("builtins:coroutine", "builtins:object",
    [("builtins:NoneType", "__doc__ __text_signature__"),
     ("builtins:getset_descriptor", "cr_await cr_frame cr_running cr_suspended"),
     ("builtins:member_descriptor", "cr_code cr_origin"),
     ("builtins:method_descriptor", "close send throw"),
     ("builtins:wrapper_descriptor", "__await__ __del__")]),
   ("builtins:dict", "builtins:object",
    [("builtins:NoneType", "__hash__ __text_signature__"),
     ("builtins:builtin_function_or_method", "__class_getitem__ fromkeys"),
     ("builtins:method_descriptor",
       "__contains__ __getitem__ __reversed__ clear copy get items keys pop popitem " ++
       "setdefault update values"),
     ("builtins:wrapper_descriptor",
       "__delitem__ __ior__ __iter__ __len__ __or__ __ror__ __setitem__")]),
   ("builtins:ellipsis", "builtins:object",
    [("builtins:NoneType", "__doc__ __text_signature__")]),
   ("builtins:enumerate", "builtins:object",
    [("builtins:builtin_function_or_method", "__class_getitem__"),
     ("builtins:wrapper_descriptor", "__iter__ __next__")]),
   ("builtins:filter", "builtins:object",
    [("builtins:NoneType", "__text_signature__"),
     ("builtins:wrapper_descriptor", "__iter__ __next__")]),
   ("builtins:float", "builtins:object",
    [("builtins:builtin_function_or_method", "__getformat__ fromhex"),
     ("builtins:getset_descriptor", "imag real"),
     ("builtins:method_descriptor",
       "__ceil__ __floor__ __getnewargs__ __round__ __trunc__ as_integer_ratio conjugate hex " ++
       "is_integer"),
     ("builtins:wrapper_descriptor",
       "__abs__ __add__ __bool__ __divmod__ __float__ __floordiv__ __int__ __mod__ __mul__ " ++
       "__neg__ __pos__ __pow__ __radd__ __rdivmod__ __rfloordiv__ __rmod__ __rmul__ __rpow__ " ++
       "__rsub__ __rtruediv__ __sub__ __truediv__")]),
   ("builtins:frame", "builtins:object",
    [("builtins:NoneType", "__doc__ __text_signature__"),
     ("builtins:getset_descriptor",
       "f_back f_builtins f_code f_globals f_lasti f_lineno f_locals f_trace"),
     ("builtins:member_descriptor", "f_trace_lines f_trace_opcodes"),
     ("builtins:method_descriptor", "clear")]),
   ("builtins:frozenset", "builtins:object",
    [("builtins:NoneType", "__text_signature__"),
     ("builtins:builtin_function_or_method", "__class_getitem__"),
     ("builtins:method_descriptor",
       "__contains__ copy difference intersection isdisjoint issubset issuperset " ++
       "symmetric_difference union"),
     ("builtins:wrapper_descriptor",
       "__and__ __iter__ __len__ __or__ __rand__ __ror__ __rsub__ __rxor__ __sub__ __xor__")]),
   ("builtins:function", "builtins:object",
    [("builtins:getset_descriptor", "__code__ __defaults__ __kwdefaults__"),
     ("builtins:member_descriptor", "__builtins__ __closure__ __globals__"),
     ("builtins:wrapper_descriptor", "__call__ __get__")]),
   ("builtins:generator", "builtins:object",
    [("builtins:NoneType", "__doc__ __text_signature__"),
     ("builtins:getset_descriptor", "gi_frame gi_running gi_suspended gi_yieldfrom"),
     ("builtins:member_descriptor", "gi_code"),
     ("builtins:method_descriptor", "close send throw"),
     ("builtins:wrapper_descriptor", "__del__ __iter__ __next__")]),
   ("builtins:getset_descriptor", "builtins:object",
    [("builtins:NoneType", "__text_signature__"),
     ("builtins:getset_descriptor", "__doc__"),
     ("builtins:member_descriptor", "__objclass__"),
     ("builtins:wrapper_descriptor", "__delete__ __get__ __set__")]),
   ("builtins:int", "builtins:object",
    [("builtins:NoneType", "__text_signature__"),
     ("builtins:builtin_function_or_method", "from_bytes"),
     ("builtins:getset_descriptor", "denominator imag numerator real"),
     ("builtins:method_descriptor",
       "__ceil__ __floor__ __getnewargs__ __round__ __trunc__ as_integer_ratio bit_count " ++
       "bit_length conjugate to_bytes"),
     ("builtins:wrapper_descriptor",
       "__abs__ __add__ __and__ __bool__ __divmod__ __float__ __floordiv__ __index__ __int__ " ++
       "__invert__ __lshift__ __mod__ __mul__ __neg__ __or__ __pos__ __pow__ __radd__ " ++
       "__rand__ __rdivmod__ __rfloordiv__ __rlshift__ __rmod__ __rmul__ __ror__ __rpow__ " ++
       "__rrshift__ __rshift__ __rsub__ __rtruediv__ __rxor__ __sub__ __truediv__ __xor__")]),
   ("builtins:list", "builtins:object",
    [("builtins:NoneType", "__hash__"),
     ("builtins:builtin_function_or_method", "__class_getitem__"),
     ("builtins:method_descriptor",
       "__getitem__ __reversed__ append clear copy count extend index insert pop remove " ++
       "reverse sort"),
     ("builtins:wrapper_descriptor",
       "__add__ __contains__ __delitem__ __iadd__ __imul__ __iter__ __len__ __mul__ __rmul__ " ++
       "__setitem__")]),
   ("builtins:map", "builtins:object",
    [("builtins:NoneType", "__text_signature__"),
     ("builtins:wrapper_descriptor", "__iter__ __next__")]),
   ("builtins:mappingproxy", "builtins:object",
    [("builtins:NoneType", "__doc__ __hash__ __text_signature__"),
     ("builtins:builtin_function_or_method", "__class_getitem__"),
     ("builtins:method_descriptor", "__reversed__ copy get items keys values"),
     ("builtins:wrapper_descriptor",
       "__contains__ __getitem__ __ior__ __iter__ __len__ __or__ __ror__")]),
   ("builtins:member_descriptor", "builtins:object",
    [("builtins:NoneType", "__text_signature__"),
     ("builtins:getset_descriptor", "__doc__"),
     ("builtins:member_descriptor", "__objclass__"),
     ("builtins:wrapper_descriptor", "__delete__ __get__ __set__")]),
   ("builtins:memoryview", "builtins:object",
    [("builtins:getset_descriptor",
       "c_contiguous contiguous f_contiguous format itemsize nbytes ndim obj readonly shape " ++
       "strides suboffsets"),
     ("builtins:method_descriptor",
       "__enter__ __exit__ cast hex release tobytes tolist toreadonly"),
     ("builtins:wrapper_descriptor", "__delitem__ __getitem__ __iter__ __len__ __setitem__")]),
   ("builtins:method", "builtins:object",
    [("builtins:member_descriptor", "__func__ __self__"),
     ("builtins:wrapper_descriptor", "__call__")]),
   ("builtins:method-wrapper", "builtins:object",
    [("builtins:NoneType", "__text_signature__"),
     ("builtins:getset_descriptor", "__doc__ __objclass__"),
     ("builtins:member_descriptor", "__self__"),
     ("builtins:wrapper_descriptor", "__call__")]),
   ("builtins:method_descriptor", "builtins:object",
    [("builtins:NoneType", "__text_signature__"),
     ("builtins:getset_descriptor", "__doc__"),
     ("builtins:member_descriptor", "__objclass__"),
     ("builtins:wrapper_descriptor", "__call__ __get__")]),
   ("builtins:object", "",
    [("builtins:builtin_function_or_method",
       "__init_subclass__ __instancecheck__ __new__ __prepare__ __subclasscheck__ " ++
       "__subclasses__ __subclasshook__ mro"),
     ("builtins:int", "__basicsize__ __dictoffset__ __flags__ __itemsize__ __weakrefoffset__"),
     ("builtins:mappingproxy", "__dict__"),
     ("builtins:method-wrapper", "__call__ __or__ __ror__"),
     ("builtins:method_descriptor",
       "__dir__ __format__ __getstate__ __reduce__ __reduce_ex__ __sizeof__"),
     ("builtins:str", "__doc__ __module__ __name__ __qualname__ __text_signature__"),
     ("builtins:tuple", "__bases__ __mro__"),
     ("builtins:wrapper_descriptor",
       "__delattr__ __eq__ __ge__ __getattribute__ __gt__ __hash__ __init__ __le__ __lt__ " ++
       "__ne__ __repr__ __setattr__ __str__")]),
   ("builtins:property", "builtins:object",
    [("builtins:getset_descriptor", "__isabstractmethod__"),
     ("builtins:member_descriptor", "fdel fget fset"),
     ("builtins:method_descriptor", "__set_name__ deleter getter setter"),
     ("builtins:wrapper_descriptor", "__delete__ __get__ __set__")]),
   ("builtins:range", "builtins:object",
    [("builtins:NoneType", "__text_signature__"),
     ("builtins:member_descriptor", "start step stop"),
     ("builtins:method_descriptor", "__reversed__ count index"),
     ("builtins:wrapper_descriptor", "__bool__ __contains__ __getitem__ __iter__ __len__")]),
   ("builtins:reversed", "builtins:object",
    [("builtins:method_descriptor", "__length_hint__ __setstate__"),
     ("builtins:wrapper_descriptor", "__iter__ __next__")]),
   ("builtins:set", "builtins:object",
    [("builtins:NoneType", "__hash__ __text_signature__"),
     ("builtins:builtin_function_or_method", "__class_getitem__"),
     ("builtins:method_descriptor",
       "__contains__ add clear copy difference difference_update discard intersection " ++
       "intersection_update isdisjoint issubset issuperset pop remove symmetric_difference " ++
       "symmetric_difference_update union update"),
     ("builtins:wrapper_descriptor",
       "__and__ __iand__ __ior__ __isub__ __iter__ __ixor__ __len__ __or__ __rand__ __ror__ " ++
       "__rsub__ __rxor__ __sub__ __xor__")]),
   ("builtins:slice", "builtins:object",
    [("builtins:NoneType", "__hash__ __text_signature__"),
     ("builtins:member_descriptor", "start step stop"),
     ("builtins:method_descriptor", "indices")]),
   ("builtins:staticmethod", "builtins:object",
    [("builtins:NoneType", "__text_signature__"),
     ("builtins:getset_descriptor", "__isabstractmethod__"),
     ("builtins:member_descriptor", "__func__ __wrapped__"),
     ("builtins:wrapper_descriptor", "__call__ __get__")]),
   ("builtins:str", "builtins:object",
    [("builtins:NoneType", "__text_signature__"),
     ("builtins:builtin_function_or_method", "maketrans"),
     ("builtins:method_descriptor",
       "__getnewargs__ capitalize casefold center count encode endswith expandtabs find " ++
       "format format_map index isalnum isalpha isascii isdecimal isdigit isidentifier " ++
       "islower isnumeric isprintable isspace istitle isupper join ljust lower lstrip " ++
       "partition removeprefix removesuffix replace rfind rindex rjust rpartition rsplit " ++
       "rstrip split splitlines startswith strip swapcase title translate upper zfill"),
     ("builtins:wrapper_descriptor",
       "__add__ __contains__ __getitem__ __iter__ __len__ __mod__ __mul__ __rmod__ __rmul__")]),
   ("builtins:super", "builtins:object",
    [("builtins:NoneType", "__text_signature__"),
     ("builtins:member_descriptor", "__self__ __self_class__ __thisclass__"),
     ("builtins:wrapper_descriptor", "__get__")]),
   ("builtins:traceback", "builtins:object",
    [("builtins:NoneType", "__text_signature__"),
     ("builtins:getset_descriptor", "tb_lineno tb_next"),
     ("builtins:member_descriptor", "tb_frame tb_lasti")]),
   ("builtins:tuple", "builtins:object",
    [("builtins:builtin_function_or_method", "__class_getitem__"),
     ("builtins:method_descriptor", "__getnewargs__ count index"),
     ("builtins:wrapper_descriptor",
       "__add__ __contains__ __getitem__ __iter__ __len__ __mul__ __rmul__")]),
   ("builtins:type", "builtins:object",
    [("builtins:NoneType", "__text_signature__"),
     ("builtins:method_descriptor", "__instancecheck__ __subclasscheck__ __subclasses__ mro"),
     ("builtins:wrapper_descriptor", "__call__ __or__ __ror__")]),
   ("builtins:wrapper_descriptor", "builtins:object",
    [("builtins:NoneType", "__text_signature__"),
     ("builtins:getset_descriptor", "__doc__"),
     ("builtins:member_descriptor", "__objclass__"),
     ("builtins:wrapper_descriptor", "__call__ __get__")]),
   ("builtins:zip", "builtins:object",
    [("builtins:NoneType", "__text_signature__"),
     ("builtins:method_descriptor", "__setstate__"),
     ("builtins:wrapper_descriptor", "__iter__ __next__")]),
   ("collections.abc:AsyncGenerator", "collections.abc:AsyncIterator",
    [("builtins:function", "aclose asend athrow")]),
   ("collections.abc:AsyncIterable", "builtins:object",
    [("_abc:_abc_data", "_abc_impl"),
     ("builtins:NoneType", "__doc__ __text_signature__"),
     ("builtins:dict", "__annotations__"),
     ("builtins:frozenset", "__abstractmethods__"),
     ("builtins:function", "__aiter__"),
     ("builtins:method",
       "__class_getitem__ __instancecheck__ __subclasscheck__ __subclasshook__ " ++
       "_abc_caches_clear _abc_registry_clear _dump_registry register"),
     ("builtins:tuple", "__slots__")]),
   ("collections.abc:AsyncIterator", "collections.abc:AsyncIterable",
    [("builtins:function", "__anext__")]),
   ("collections.abc:Awaitable", "builtins:object",
    [("_abc:_abc_data", "_abc_impl"),
     ("builtins:NoneType", "__doc__ __text_signature__"),
     ("builtins:dict", "__annotations__"),
     ("builtins:frozenset", "__abstractmethods__"),
     ("builtins:function", "__await__"),
     ("builtins:method",
       "__class_getitem__ __instancecheck__ __subclasscheck__ __subclasshook__ " ++
       "_abc_caches_clear _abc_registry_clear _dump_registry register"),
     ("builtins:tuple", "__slots__")]),
   ("collections.abc:ByteString", "collections.abc:Sequence",
    []),
   ("collections.abc:Callable", "builtins:object",
    [("_abc:_abc_data", "_abc_impl"),
     ("builtins:NoneType", "__doc__ __text_signature__"),
     ("builtins:dict", "__annotations__"),
     ("builtins:frozenset", "__abstractmethods__"),
     ("builtins:function", "__call__"),
     ("builtins:method",
       "__class_getitem__ __instancecheck__ __subclasscheck__ __subclasshook__ " ++
       "_abc_caches_clear _abc_registry_clear _dump_registry register"),
     ("builtins:tuple", "__slots__")]),
   ("collections.abc:Collection", "collections.abc:Sized",
    [("builtins:function", "__contains__ __iter__"),
     ("builtins:method", "__class_getitem__")]),
   ("collections.abc:Container", "builtins:object",
    [("_abc:_abc_data", "_abc_impl"),
     ("builtins:NoneType", "__doc__ __text_signature__"),
     ("builtins:dict", "__annotations__"),
     ("builtins:frozenset", "__abstractmethods__"),
     ("builtins:function", "__contains__"),
     ("builtins:method",
       "__class_getitem__ __instancecheck__ __subclasscheck__ __subclasshook__ " ++
       "_abc_caches_clear _abc_registry_clear _dump_registry register"),
     ("builtins:tuple", "__slots__")]),
   ("collections.abc:Coroutine", "collections.abc:Awaitable",
    [("builtins:function", "close send throw")]),
   ("collections.abc:Generator", "collections.abc:Iterator",
    [("builtins:function", "close send throw")]),
   ("collections.abc:Hashable", "builtins:object",
    [("_abc:_abc_data", "_abc_impl"),
     ("builtins:NoneType", "__doc__ __text_signature__"),
     ("builtins:dict", "__annotations__"),
     ("builtins:frozenset", "__abstractmethods__"),
     ("builtins:function", "__hash__"),
     ("builtins:method",
       "__instancecheck__ __subclasscheck__ __subclasshook__ _abc_caches_clear " ++
       "_abc_registry_clear _dump_registry register"),
     ("builtins:tuple", "__slots__")]),
   ("collections.abc:ItemsView", "collections.abc:MappingView",
    [("builtins:NoneType", "__hash__"),
     ("builtins:function",
       "__and__ __contains__ __eq__ __ge__ __gt__ __iter__ __le__ __lt__ __or__ __rand__ " ++
       "__ror__ __rsub__ __rxor__ __sub__ __xor__ _hash isdisjoint"),
     ("builtins:method", "_from_iterable")]),
   ("collections.abc:Iterable", "builtins:object",
    [("_abc:_abc_data", "_abc_impl"),
     ("builtins:NoneType", "__doc__ __text_signature__"),
     ("builtins:dict", "__annotations__"),
     ("builtins:frozenset", "__abstractmethods__"),
     ("builtins:function", "__iter__"),
     ("builtins:method",
       "__class_getitem__ __instancecheck__ __subclasscheck__ __subclasshook__ " ++
       "_abc_caches_clear _abc_registry_clear _dump_registry register"),
     ("builtins:tuple", "__slots__")]),
   ("collections.abc:Iterator", "collections.abc:Iterable",
    [("builtins:function", "__next__")]),
   ("collections.abc:KeysView", "collections.abc:MappingView",
    [("builtins:NoneType", "__hash__"),
     ("builtins:function",
       "__and__ __contains__ __eq__ __ge__ __gt__ __iter__ __le__ __lt__ __or__ __rand__ " ++
       "__ror__ __rsub__ __rxor__ __sub__ __xor__ _hash isdisjoint"),
     ("builtins:method", "_from_iterable")]),
   ("collections.abc:Mapping", "collections.abc:Collection",
    [("builtins:NoneType", "__hash__ __reversed__"),
     ("builtins:function", "__eq__ __getitem__ get items keys values"),
     ("builtins:str", "__doc__")]),
   ("collections.abc:MappingView", "collections.abc:Sized",
    [("builtins:function", "__init__ __repr__"),
     ("builtins:member_descriptor", "_mapping"),
     ("builtins:method", "__class_getitem__")]),
   ("collections.abc:MutableMapping", "collections.abc:Mapping",
    [("builtins:function", "__delitem__ __setitem__ clear pop popitem setdefault update"),
     ("builtins:object", "_MutableMapping__marker")]),
   ("collections.abc:MutableSequence", "collections.abc:Sequence",
    [("builtins:function",
       "__delitem__ __iadd__ __setitem__ append clear extend insert pop remove reverse")]),
   ("collections.abc:MutableSet", "collections.abc:Set",
    [("builtins:function", "__iand__ __ior__ __isub__ __ixor__ add clear discard pop remove")]),
   ("collections.abc:Reversible", "collections.abc:Iterable",
    [("builtins:function", "__reversed__")]),
   ("collections.abc:Sequence", "collections.abc:Reversible",
    [("builtins:function", "__contains__ __getitem__ __len__ count index"),
     ("builtins:str", "__doc__")]),
   ("collections.abc:Set", "collections.abc:Collection",
    [("builtins:NoneType", "__hash__"),
     ("builtins:function",
       "__and__ __eq__ __ge__ __gt__ __le__ __lt__ __or__ __rand__ __ror__ __rsub__ __rxor__ " ++
       "__sub__ __xor__ _hash isdisjoint"),
     ("builtins:method", "_from_iterable"),
     ("builtins:str", "__doc__")]),
   ("collections.abc:Sized", "builtins:object",
    [("_abc:_abc_data", "_abc_impl"),
     ("builtins:NoneType", "__doc__ __text_signature__"),
     ("builtins:dict", "__annotations__"),
     ("builtins:frozenset", "__abstractmethods__"),
     ("builtins:function", "__len__"),
     ("builtins:method",
       "__instancecheck__ __subclasscheck__ __subclasshook__ _abc_caches_clear " ++
       "_abc_registry_clear _dump_registry register"),
     ("builtins:tuple", "__slots__")]),
   ("collections.abc:ValuesView", "collections.abc:MappingView",
    [("builtins:function", "__contains__ __iter__")]),
   ("collections.abc:_CallableGenericAlias", "types:GenericAlias",
    [("builtins:dict", "__annotations__"),
     ("builtins:function", "__getitem__ __new__ __reduce__ __repr__"),
     ("builtins:tuple", "__slots__")]),
   ("collections:ChainMap", "collections.abc:MutableMapping",
    [("builtins:function",
       "__bool__ __copy__ __init__ __ior__ __missing__ __or__ __repr__ __ror__ copy new_child"),
     ("builtins:getset_descriptor", "__weakref__"),
     ("builtins:method", "fromkeys"),
     ("builtins:property", "parents")]),
   ("collections:Counter", "builtins:dict",
    [("builtins:dict", "__annotations__"),
     ("builtins:function",
       "__add__ __and__ __delitem__ __eq__ __ge__ __gt__ __iadd__ __iand__ __init__ __ior__ " ++
       "__isub__ __le__ __lt__ __missing__ __ne__ __neg__ __or__ __pos__ __reduce__ __repr__ " ++
       "__sub__ _keep_positive copy elements most_common subtract total update"),
     ("builtins:getset_descriptor", "__weakref__"),
     ("builtins:method", "fromkeys")]),
   ("collections:OrderedDict", "builtins:dict",
    [("builtins:method_descriptor", "move_to_end")]),
   ("collections:UserDict", "collections.abc:MutableMapping",
    [("builtins:NoneType", "__doc__"),
     ("builtins:function", "__copy__ __init__ __ior__ __or__ __repr__ __ror__ copy"),
     ("builtins:getset_descriptor", "__weakref__"),
     ("builtins:method", "fromkeys")]),
   ("collections:UserList", "collections.abc:MutableSequence",
    [("builtins:NoneType", "__hash__"),
     ("builtins:function",
       "_UserList__cast __add__ __copy__ __eq__ __ge__ __gt__ __imul__ __init__ __le__ __lt__ " ++
       "__mul__ __radd__ __repr__ __rmul__ copy sort"),
     ("builtins:getset_descriptor", "__weakref__")]),
   ("collections:UserString", "collections.abc:Sequence",
    [("builtins:NoneType", "__doc__"),
     ("builtins:builtin_function_or_method", "maketrans"),
     ("builtins:function",
       "__add__ __complex__ __eq__ __float__ __ge__ __getnewargs__ __gt__ __hash__ __init__ " ++
       "__int__ __le__ __lt__ __mod__ __mul__ __radd__ __repr__ __rmod__ __rmul__ __str__ " ++
       "capitalize casefold center encode endswith expandtabs find format format_map isalnum " ++
       "isalpha isascii isdecimal isdigit isidentifier islower isnumeric isprintable isspace " ++
       "istitle isupper join ljust lower lstrip partition removeprefix removesuffix replace " ++
       "rfind rindex rjust rpartition rsplit rstrip split splitlines startswith strip " ++
       "swapcase title translate upper zfill"),
     ("builtins:getset_descriptor", "__weakref__")]),
   ("collections:_Link", "builtins:object",
    [("builtins:NoneType", "__doc__ __text_signature__"),
     ("builtins:dict", "__annotations__"),
     ("builtins:getset_descriptor", "__weakref__"),
     ("builtins:member_descriptor", "key next prev"),
     ("builtins:tuple", "__slots__")]),
   ("collections:_OrderedDictItemsView", "collections.abc:ItemsView",
    [("builtins:function", "__reversed__"),
     ("builtins:getset_descriptor", "__weakref__")]),
   ("collections:_OrderedDictKeysView", "collections.abc:KeysView",
    [("builtins:function", "__reversed__"),
     ("builtins:getset_descriptor", "__weakref__")]),
   ("collections:_OrderedDictValuesView", "collections.abc:ValuesView",
    [("builtins:function", "__reversed__"),
     ("builtins:getset_descriptor", "__weakref__")]),
   ("collections:defaultdict", "builtins:dict",
    [("builtins:member_descriptor", "default_factory"),
     ("builtins:method_descriptor", "__copy__ __missing__")]),
   ("collections:deque", "builtins:object",
    [("builtins:NoneType", "__hash__ __text_signature__"),
     ("builtins:builtin_function_or_method", "__class_getitem__"),
     ("builtins:getset_descriptor", "maxlen"),
     ("builtins:method_descriptor",
       "__copy__ __reversed__ append appendleft clear copy count extend extendleft index " ++
       "insert pop popleft remove reverse rotate"),
     ("builtins:wrapper_descriptor",
       "__add__ __contains__ __delitem__ __getitem__ __iadd__ __imul__ __iter__ __len__ " ++
       "__mul__ __rmul__ __setitem__")]),
   ("datetime:date", "builtins:object",
    [("builtins:NoneType", "__text_signature__"),
     ("builtins:builtin_function_or_method",
       "fromisocalendar fromisoformat fromordinal fromtimestamp today"),
     ("builtins:getset_descriptor", "day month year"),
     ("builtins:method_descriptor",
       "ctime isocalendar isoformat isoweekday replace strftime timetuple toordinal weekday"),
     ("builtins:wrapper_descriptor", "__add__ __radd__ __rsub__ __sub__"),
     ("datetime:date", "max min"),
     ("datetime:timedelta", "resolution")]),
   ("datetime:datetime", "datetime:date",
    [("builtins:builtin_function_or_method", "combine now strptime utcfromtimestamp utcnow"),
     ("builtins:getset_descriptor", "fold hour microsecond minute second tzinfo"),
     ("builtins:method_descriptor",
       "astimezone date dst time timestamp timetz tzname utcoffset utctimetuple"),
     ("datetime:datetime", "max min")]),
   ("datetime:time", "builtins:object",
    [("builtins:NoneType", "__text_signature__"),
     ("builtins:builtin_function_or_method", "fromisoformat"),
     ("builtins:getset_descriptor", "fold hour microsecond minute second tzinfo"),
     ("builtins:method_descriptor", "dst isoformat replace strftime tzname utcoffset"),
     ("datetime:time", "max min"),
     ("datetime:timedelta", "resolution")]),
   ("datetime:timedelta", "builtins:object",
    [("builtins:NoneType", "__text_signature__"),
     ("builtins:member_descriptor", "days microseconds seconds"),
     ("builtins:method_descriptor", "total_seconds"),
     ("builtins:wrapper_descriptor",
       "__abs__ __add__ __bool__ __divmod__ __floordiv__ __mod__ __mul__ __neg__ __pos__ " ++
       "__radd__ __rdivmod__ __rfloordiv__ __rmod__ __rmul__ __rsub__ __rtruediv__ __sub__ " ++
       "__truediv__"),
     ("datetime:timedelta", "max min resolution")]),
   ("datetime:timezone", "datetime:tzinfo",
    [("builtins:method_descriptor", "__getinitargs__"),
     ("datetime:timezone", "max min utc")]),
   ("datetime:tzinfo", "builtins:object",
    [("builtins:NoneType", "__text_signature__"),
     ("builtins:method_descriptor", "dst fromutc tzname utcoffset")]),
   ("decimal:Clamped", "decimal:DecimalException",
    []),
   ("decimal:Context", "builtins:object",
    [("builtins:getset_descriptor", "Emax Emin capitals clamp prec rounding"),
     ("builtins:method_descriptor",
       "Etiny Etop __copy__ _apply abs add canonical clear_flags clear_traps compare " ++
       "compare_signal compare_total compare_total_mag copy copy_abs copy_decimal copy_negate " ++
       "copy_sign create_decimal create_decimal_from_float divide divide_int divmod exp fma " ++
       "is_canonical is_finite is_infinite is_nan is_normal is_qnan is_signed is_snan " ++
       "is_subnormal is_zero ln log10 logb logical_and logical_invert logical_or logical_xor " ++
       "max max_mag min min_mag minus multiply next_minus next_plus next_toward normalize " ++
       "number_class plus power quantize radix remainder remainder_near rotate same_quantum " ++
       "scaleb shift sqrt subtract to_eng_string to_integral to_integral_exact " ++
       "to_integral_value to_sci_string")]),
   ("decimal:ConversionSyntax", "decimal:InvalidOperation",
    []),
   ("decimal:Decimal", "builtins:object",
    [("builtins:builtin_function_or_method", "from_float"),
     ("builtins:getset_descriptor", "imag real"),
     ("builtins:method_descriptor",
       "__ceil__ __complex__ __copy__ __deepcopy__ __floor__ __round__ __trunc__ adjusted " ++
       "as_integer_ratio as_tuple canonical compare compare_signal compare_total " ++
       "compare_total_mag conjugate copy_abs copy_negate copy_sign exp fma is_canonical " ++
       "is_finite is_infinite is_nan is_normal is_qnan is_signed is_snan is_subnormal is_zero " ++
       "ln log10 logb logical_and logical_invert logical_or logical_xor max max_mag min " ++
       "min_mag next_minus next_plus next_toward normalize number_class quantize radix " ++
       "remainder_near rotate same_quantum scaleb shift sqrt to_eng_string to_integral " ++
       "to_integral_exact to_integral_value"),
     ("builtins:wrapper_descriptor",
       "__abs__ __add__ __bool__ __divmod__ __float__ __floordiv__ __int__ __mod__ __mul__ " ++
       "__neg__ __pos__ __pow__ __radd__ __rdivmod__ __rfloordiv__ __rmod__ __rmul__ __rpow__ " ++
       "__rsub__ __rtruediv__ __sub__ __truediv__")]),
   ("decimal:DecimalException", "builtins:ArithmeticError",
    [("builtins:NoneType", "__doc__"),
     ("builtins:dict", "__annotations__"),
     ("builtins:getset_descriptor", "__weakref__")]),
   ("decimal:DecimalTuple", "builtins:tuple",
    [("_collections:_tuplegetter", "digits exponent sign"),
     ("builtins:NoneType", "__text_signature__"),
     ("builtins:dict", "__annotations__ _field_defaults"),
     ("builtins:function", "__getnewargs__ __new__ __repr__ _asdict _replace"),
     ("builtins:method", "_make"),
     ("builtins:tuple", "__match_args__ __slots__ _fields")]),
   ("decimal:DivisionByZero", "decimal:DecimalException",
    []),
   ("decimal:DivisionImpossible", "decimal:InvalidOperation",
    []),
   ("decimal:DivisionUndefined", "decimal:InvalidOperation",
    []),
   ("decimal:FloatOperation", "decimal:DecimalException",
    []),
   ("decimal:Inexact", "decimal:DecimalException",
    []),
   ("decimal:InvalidContext", "decimal:InvalidOperation",
    []),
   ("decimal:InvalidOperation", "decimal:DecimalException",
    []),
   ("decimal:Overflow", "decimal:Inexact",
    []),
   ("decimal:Rounded", "decimal:DecimalException",
    []),
   ("decimal:Subnormal", "decimal:DecimalException",
    []),
   ("decimal:Underflow", "decimal:Inexact",
    []),
   ("enum:Enum", "builtins:object",
    [("builtins:NoneType", "__text_signature__"),
     ("builtins:dict", "__annotations__"),
     ("builtins:function",
       "__dir__ __format__ __hash__ __init__ __new__ __reduce_ex__ __repr__ __str__"),
     ("builtins:mappingproxy", "__members__"),
     ("builtins:method",
       "__bool__ __call__ __contains__ __getattr__ __getitem__ __iter__ __len__ __prepare__ " ++
       "__reversed__ _check_for_existing_members_ _convert_ _create_ _find_data_repr_ " ++
       "_find_data_type_ _find_new_ _get_mixins_")]),
   ("enum:EnumCheck", "enum:StrEnum",
    [("enum:EnumCheck", "CONTINUOUS NAMED_FLAGS UNIQUE")]),
   ("enum:EnumType", "builtins:type",
    [("builtins:dict", "__annotations__"),
     ("builtins:function",
       "__bool__ __call__ __contains__ __delattr__ __dir__ __getattr__ __getitem__ __iter__ " ++
       "__len__ __new__ __repr__ __reversed__ __setattr__ _convert_ _create_"),
     ("builtins:method",
       "__prepare__ _check_for_existing_members_ _find_data_repr_ _find_data_type_ _find_new_ " ++
       "_get_mixins_"),
     ("builtins:property", "__members__")]),
   ("enum:Flag", "enum:Enum",
    [("builtins:function", "__bool__ __contains__ __iter__ __len__ __or__ __ror__")]),
   ("enum:FlagBoundary", "enum:StrEnum",
    [("enum:FlagBoundary", "CONFORM EJECT KEEP STRICT")]),
   ("enum:IntEnum", "builtins:int",
    [("builtins:dict", "__annotations__"),
     ("builtins:function", "__dir__ __init__ __new__ __reduce_ex__ __repr__"),
     ("builtins:mappingproxy", "__members__"),
     ("builtins:method",
       "__call__ __contains__ __getattr__ __getitem__ __iter__ __len__ __prepare__ " ++
       "__reversed__ _check_for_existing_members_ _convert_ _create_ _find_data_repr_ " ++
       "_find_data_type_ _find_new_ _get_mixins_")]),
   ("enum:IntFlag", "builtins:int",
    [("builtins:dict", "__annotations__"),
     ("builtins:function",
       "__and__ __contains__ __dir__ __init__ __invert__ __iter__ __len__ __new__ __or__ " ++
       "__rand__ __reduce_ex__ __repr__ __ror__ __rxor__ __xor__"),
     ("builtins:mappingproxy", "__members__"),
     ("builtins:method",
       "__call__ __getattr__ __getitem__ __prepare__ __reversed__ " ++
       "_check_for_existing_members_ _convert_ _create_ _find_data_repr_ _find_data_type_ " ++
       "_find_new_ _get_mixins_")]),
   ("enum:ReprEnum", "enum:Enum",
    []),
   ("enum:StrEnum", "builtins:str",
    [("builtins:dict", "__annotations__"),
     ("builtins:function", "__dir__ __init__ __new__ __reduce_ex__ __repr__"),
     ("builtins:mappingproxy", "__members__"),
     ("builtins:method",
       "__bool__ __call__ __getattr__ __prepare__ __reversed__ _check_for_existing_members_ " ++
       "_convert_ _create_ _find_data_repr_ _find_data_type_ _find_new_ _get_mixins_")]),
   ("enum:_EnumDict", "builtins:dict",
    [("builtins:dict", "__annotations__"),
     ("builtins:function", "__init__ __setitem__ update"),
     ("builtins:getset_descriptor", "__weakref__")]),
   ("enum:_proto_member", "builtins:object",
    [("builtins:NoneType", "__text_signature__"),
     ("builtins:dict", "__annotations__"),
     ("builtins:function", "__init__ __set_name__"),
     ("builtins:getset_descriptor", "__weakref__")]),
   ("enum:auto", "builtins:object",
    [("builtins:NoneType", "__text_signature__"),
     ("builtins:dict", "__annotations__"),
     ("builtins:function", "__init__ __repr__"),
     ("builtins:getset_descriptor", "__weakref__")]),
   ("enum:member", "builtins:object",
    [("builtins:NoneType", "__text_signature__"),
     ("builtins:dict", "__annotations__"),
     ("builtins:function", "__init__"),
     ("builtins:getset_descriptor", "__weakref__")]),
   ("enum:nonmember", "builtins:object",
    [("builtins:NoneType", "__text_signature__"),
     ("builtins:dict", "__annotations__"),
     ("builtins:function", "__init__"),
     ("builtins:getset_descriptor", "__weakref__")]),
   ("enum:property", "types:DynamicClassAttribute",
    [("builtins:function", "__set_name__")]),
   ("enum:verify", "builtins:object",
    [("builtins:NoneType", "__text_signature__"),
     ("builtins:dict", "__annotations__"),
     ("builtins:function", "__call__ __init__"),
     ("builtins:getset_descriptor", "__weakref__")]),
   ("fractions:Fraction", "numbers:Rational",
    [("builtins:function",
       "__copy__ __deepcopy__ __ge__ __gt__ __hash__ __int__ __new__ __reduce__ __repr__ " ++
       "__str__ _add _div _divmod _floordiv _mod _mul _operator_fallbacks _richcmp _sub " ++
       "as_integer_ratio limit_denominator"),
     ("builtins:member_descriptor", "_denominator _numerator"),
     ("builtins:method", "from_decimal from_float")]),
   ("io:BufferedIOBase", "_io:_BufferedIOBase",
    [("_abc:_abc_data", "_abc_impl"),
     ("builtins:dict", "__annotations__"),
     ("builtins:frozenset", "__abstractmethods__"),
     ("builtins:method",
       "__instancecheck__ __subclasscheck__ _abc_caches_clear _abc_registry_clear " ++
       "_dump_registry register")]),
   ("io:IOBase", "_io:_IOBase",
    [("_abc:_abc_data", "_abc_impl"),
     ("builtins:dict", "__annotations__"),
     ("builtins:frozenset", "__abstractmethods__"),
     ("builtins:method",
       "__instancecheck__ __subclasscheck__ _abc_caches_clear _abc_registry_clear " ++
       "_dump_registry register")]),
   ("io:RawIOBase", "_io:_RawIOBase",
    [("_abc:_abc_data", "_abc_impl"),
     ("builtins:dict", "__annotations__"),
     ("builtins:frozenset", "__abstractmethods__"),
     ("builtins:method",
       "__instancecheck__ __subclasscheck__ _abc_caches_clear _abc_registry_clear " ++
       "_dump_registry register")]),
   ("io:TextIOBase", "_io:_TextIOBase",
    [("_abc:_abc_data", "_abc_impl"),
     ("builtins:dict", "__annotations__"),
     ("builtins:frozenset", "__abstractmethods__"),
     ("builtins:method",
       "__instancecheck__ __subclasscheck__ _abc_caches_clear _abc_registry_clear " ++
       "_dump_registry register")]),
   ("io:UnsupportedOperation", "builtins:OSError",
    [("builtins:NoneType", "__doc__"),
     ("builtins:dict", "__annotations__"),
     ("builtins:getset_descriptor", "__weakref__")]),
   ("json.decoder:JSONDecodeError", "builtins:ValueError",
    [("builtins:dict", "__annotations__"),
     ("builtins:function", "__init__ __reduce__"),
     ("builtins:getset_descriptor", "__weakref__")]),
   ("json.decoder:JSONDecoder", "builtins:object",
    [("builtins:NoneType", "__text_signature__"),
     ("builtins:dict", "__annotations__"),
     ("builtins:function", "__init__ decode raw_decode"),
     ("builtins:getset_descriptor", "__weakref__")]),
   ("json.encoder:JSONEncoder", "builtins:object",
    [("builtins:NoneType", "__text_signature__"),
     ("builtins:dict", "__annotations__"),
     ("builtins:function", "__init__ default encode iterencode"),
     ("builtins:getset_descriptor", "__weakref__"),
     ("builtins:str", "item_separator key_separator")]),
   ("lookupgen.emit.python:PythonRenderer", "builtins:object",
    [("builtins:function",
       "__init__ _write_branches _write_function _write_length_chain _write_node render " ++
       "render_module"),
     ("builtins:getset_descriptor", "__weakref__"),
     ("builtins:mappingproxy", "__dict__"),
     ("builtins:str", "__doc__ __module__")]),
   ("lookupgen.emit.python:_Function", "builtins:object",
    [("builtins:function", "__init__ defer"),
     ("builtins:getset_descriptor", "__weakref__"),
     ("builtins:mappingproxy", "__dict__"),
     ("builtins:property", "helper_names"),
     ("builtins:str", "__doc__ __module__")]),
   ("lookupgen.emit.writer:SourceWriter", "builtins:object",
    [("builtins:function", "__init__ blank_lines dedent indented render write_line"),
     ("builtins:getset_descriptor", "__weakref__"),
     ("builtins:mappingproxy", "__dict__"),
     ("builtins:property", "level"),
     ("builtins:str", "__doc__ __module__")]),
   ("lookupgen.matching.engine:LookupResult", "builtins:tuple",
    [("builtins:str", "__doc__ __module__"),
     ("collections:_tuplegetter", "found value")]),
   ("lookupgen.matching.engine:LookupTrace", "builtins:object",
    [("builtins:NoneType", "__hash__ result"),
     ("builtins:bool", "verified"),
     ("builtins:dict", "__annotations__ __dataclass_fields__"),
     ("builtins:function", "__eq__ __init__ __repr__"),
     ("builtins:getset_descriptor", "__weakref__"),
     ("builtins:int", "length_tests"),
     ("builtins:mappingproxy", "__dict__"),
     ("builtins:property", "char_reads"),
     ("builtins:str", "__doc__ __module__"),
     ("builtins:tuple", "__match_args__"),
     ("dataclasses:_DataclassParams", "__dataclass_params__")]),
   ("lookupgen.matching.engine:Matcher", "builtins:object",
    [("builtins:NoneType", "default name value_type"),
     ("builtins:dict", "__annotations__ __dataclass_fields__"),
     ("builtins:function",
       "__contains__ __delattr__ __eq__ __hash__ __init__ __iter__ __len__ __repr__ " ++
       "__setattr__ _walk get keys lookup trace"),
     ("builtins:getset_descriptor", "__weakref__"),
     ("builtins:mappingproxy", "__dict__"),
     ("builtins:property", "depth node_count"),
     ("builtins:str", "__doc__ __module__"),
     ("builtins:tuple", "__match_args__"),
     ("dataclasses:_DataclassParams", "__dataclass_params__"),
     ("lookupgen.matching.protocols:ComparisonMode", "mode")]),
   ("lookupgen.matching.errors:ArityMismatchError", "lookupgen.matching.errors:MatcherBuildError",
    [("builtins:function", "__init__"),
     ("builtins:getset_descriptor", "__weakref__"),
     ("builtins:mappingproxy", "__dict__"),
     ("builtins:str", "__doc__ __module__")]),
   ("lookupgen.matching.errors:DuplicateKeyError", "lookupgen.matching.errors:MatcherBuildError",
    [("builtins:function", "__init__"),
     ("builtins:getset_descriptor", "__weakref__"),
     ("builtins:mappingproxy", "__dict__"),
     ("builtins:str", "__doc__ __module__")]),
   ("lookupgen.matching.errors:EmptyKeySetError", "lookupgen.matching.errors:MatcherBuildError",
    [("builtins:function", "__init__"),
     ("builtins:getset_descriptor", "__weakref__"),
     ("builtins:mappingproxy", "__dict__"),
     ("builtins:str", "__doc__ __module__")]),
   ("lookupgen.matching.errors:MatcherBuildError", "builtins:ValueError",
    [("builtins:getset_descriptor", "__weakref__"),
     ("builtins:mappingproxy", "__dict__"),
     ("builtins:str", "__doc__ __module__")]),
   ("lookupgen.matching.errors:UnrenderableValueError",
    "lookupgen.matching.errors:MatcherBuildError",
    [("builtins:function", "__init__"),
     ("builtins:getset_descriptor", "__weakref__"),
     ("builtins:mappingproxy", "__dict__"),
     ("builtins:str", "__doc__ __module__")]),
   ("lookupgen.matching.keys:Key", "builtins:object",
    [("builtins:NoneType", "value"),
     ("builtins:dict", "__annotations__ __dataclass_fields__"),
     ("builtins:function", "__delattr__ __eq__ __hash__ __init__ __repr__ __setattr__"),
     ("builtins:getset_descriptor", "__weakref__"),
     ("builtins:mappingproxy", "__dict__"),
     ("builtins:str", "__doc__ __module__"),
     ("builtins:tuple", "__match_args__"),
     ("dataclasses:_DataclassParams", "__dataclass_params__")]),
   ("lookupgen.matching.keys:KeySet", "builtins:object",
    [("builtins:NoneType", "value_type"),
     ("builtins:dict", "__annotations__ __dataclass_fields__"),
     ("builtins:function",
       "__delattr__ __eq__ __hash__ __init__ __iter__ __len__ __repr__ __setattr__"),
     ("builtins:getset_descriptor", "__weakref__"),
     ("builtins:mappingproxy", "__dict__"),
     ("builtins:property", "lengths"),
     ("builtins:str", "__doc__ __module__"),
     ("builtins:tuple", "__match_args__"),
     ("dataclasses:_DataclassParams", "__dataclass_params__"),
     ("lookupgen.matching.protocols:ComparisonMode", "mode")]),
   ("lookupgen.matching.nodes:CharTest", "builtins:object",
    [("builtins:dict", "__annotations__ __dataclass_fields__"),
     ("builtins:function", "__delattr__ __eq__ __hash__ __init__ __repr__ __setattr__ branch_for"),
     ("builtins:getset_descriptor", "__weakref__"),
     ("builtins:mappingproxy", "__dict__"),
     ("builtins:property", "characters default"),
     ("builtins:str", "__doc__ __module__"),
     ("builtins:tuple", "__match_args__"),
     ("dataclasses:_DataclassParams", "__dataclass_params__")]),
   ("lookupgen.matching.nodes:Leaf", "builtins:object",
    [("builtins:dict", "__annotations__ __dataclass_fields__"),
     ("builtins:function", "__delattr__ __eq__ __hash__ __init__ __repr__ __setattr__ verify"),
     ("builtins:getset_descriptor", "__weakref__"),
     ("builtins:mappingproxy", "__dict__"),
     ("builtins:str", "__doc__ __module__"),
     ("builtins:tuple", "__match_args__"),
     ("dataclasses:_DataclassParams", "__dataclass_params__")]),
   ("lookupgen.matching.nodes:LengthSplit", "builtins:object",
    [("builtins:dict", "__annotations__ __dataclass_fields__"),
     ("builtins:function", "__delattr__ __eq__ __hash__ __init__ __repr__ __setattr__"),
     ("builtins:getset_descriptor", "__weakref__"),
     ("builtins:mappingproxy", "__dict__"),
     ("builtins:str", "__doc__ __module__"),
     ("builtins:tuple", "__match_args__"),
     ("dataclasses:_DataclassParams", "__dataclass_params__")]),
   ("lookupgen.matching.nodes:LengthTest", "builtins:object",
    [("builtins:dict", "__annotations__ __dataclass_fields__"),
     ("builtins:function", "__delattr__ __eq__ __hash__ __init__ __repr__ __setattr__"),
     ("builtins:getset_descriptor", "__weakref__"),
     ("builtins:mappingproxy", "__dict__"),
     ("builtins:str", "__doc__ __module__"),
     ("builtins:tuple", "__match_args__"),
     ("dataclasses:_DataclassParams", "__dataclass_params__"),
     ("lookupgen.matching.nodes:Miss", "if_not")]),
   ("lookupgen.matching.nodes:Miss", "builtins:object",
    [("builtins:dict", "__annotations__ __dataclass_fields__"),
     ("builtins:function", "__delattr__ __eq__ __hash__ __init__ __repr__ __setattr__"),
     ("builtins:getset_descriptor", "__weakref__"),
     ("builtins:mappingproxy", "__dict__"),
     ("builtins:str", "__doc__ __module__"),
     ("builtins:tuple", "__match_args__"),
     ("dataclasses:_DataclassParams", "__dataclass_params__")]),
   ("lookupgen.matching.protocols:ComparisonMode", "enum:Enum",
    [("builtins:getset_descriptor", "__weakref__"),
     ("builtins:mappingproxy", "__dict__"),
     ("builtins:str", "__doc__ __module__"),
     ("lookupgen.matching.protocols:ComparisonMode", "ORDINAL")]),
   ("lookupgen.matching.protocols:Renderer", "typing:Protocol",
    [("builtins:function", "render"),
     ("builtins:getset_descriptor", "__weakref__"),
     ("builtins:mappingproxy", "__dict__"),
     ("builtins:str", "__doc__ __module__")]),
   ("lookupgen.yaml.parser:YAMLConfig", "builtins:object",
    [("builtins:NoneType", "__hash__"),
     ("builtins:dict", "__annotations__ __dataclass_fields__"),
     ("builtins:function", "__eq__ __init__ __repr__"),
     ("builtins:getset_descriptor", "__weakref__"),
     ("builtins:mappingproxy", "__dict__"),
     ("builtins:str", "__doc__ __module__"),
     ("builtins:tuple", "__match_args__"),
     ("dataclasses:_DataclassParams", "__dataclass_params__")]),
   ("lookupgen.yaml.parser:YAMLParseError", "builtins:Exception",
    [("builtins:getset_descriptor", "__weakref__"),
     ("builtins:mappingproxy", "__dict__"),
     ("builtins:str", "__doc__ __module__")]),
   ("numbers:Complex", "numbers:Number",
    [("builtins:function",
       "__abs__ __add__ __bool__ __complex__ __eq__ __mul__ __neg__ __pos__ __pow__ __radd__ " ++
       "__rmul__ __rpow__ __rsub__ __rtruediv__ __sub__ __truediv__ conjugate"),
     ("builtins:property", "imag real")]),
   ("numbers:Integral", "numbers:Rational",
    [("builtins:function",
       "__and__ __index__ __int__ __invert__ __lshift__ __or__ __rand__ __rlshift__ __ror__ " ++
       "__rrshift__ __rshift__ __rxor__ __xor__")]),
   ("numbers:Number", "builtins:object",
    [("_abc:_abc_data", "_abc_impl"),
     ("builtins:NoneType", "__hash__ __text_signature__"),
     ("builtins:dict", "__annotations__"),
     ("builtins:frozenset", "__abstractmethods__"),
     ("builtins:method",
       "__instancecheck__ __subclasscheck__ _abc_caches_clear _abc_registry_clear " ++
       "_dump_registry register"),
     ("builtins:tuple", "__slots__")]),
   ("numbers:Rational", "numbers:Real",
    [("builtins:property", "denominator numerator")]),
   ("numbers:Real", "numbers:Complex",
    [("builtins:function",
       "__ceil__ __divmod__ __float__ __floor__ __floordiv__ __le__ __lt__ __mod__ " ++
       "__rdivmod__ __rfloordiv__ __rmod__ __round__ __trunc__")]),
   ("os:PathLike", "abc:ABC",
    [("builtins:function", "__fspath__"),
     ("builtins:getset_descriptor", "__weakref__"),
     ("builtins:method", "__class_getitem__ __subclasshook__")]),
   ("pathlib:Path", "pathlib:PurePath",
    [("builtins:function",
       "__enter__ __exit__ _make_child_relpath _scandir absolute chmod exists expanduser glob " ++
       "group hardlink_to is_block_device is_char_device is_dir is_fifo is_file is_mount " ++
       "is_socket is_symlink iterdir lchmod link_to lstat mkdir open owner read_bytes " ++
       "read_text readlink rename replace resolve rglob rmdir samefile stat symlink_to touch " ++
       "unlink write_bytes write_text"),
     ("builtins:method", "cwd home")]),
   ("pathlib:PosixPath", "pathlib:Path",
    [("pathlib:_PosixFlavour", "_flavour")]),
   ("pathlib:PurePath", "builtins:object",
    [("builtins:NoneType", "__text_signature__"),
     ("builtins:dict", "__annotations__"),
     ("builtins:function",
       "__bytes__ __eq__ __fspath__ __ge__ __gt__ __hash__ __le__ __lt__ __new__ __reduce__ " ++
       "__repr__ __rtruediv__ __str__ __truediv__ _make_child as_posix as_uri is_absolute " ++
       "is_relative_to is_reserved joinpath match relative_to with_name with_stem with_suffix"),
     ("builtins:member_descriptor", "_cached_cparts _drv _hash _parts _pparts _root _str"),
     ("builtins:method", "_format_parsed_parts _from_parsed_parts _from_parts _parse_args"),
     ("builtins:property",
       "_cparts anchor drive name parent parents parts root stem suffix suffixes"),
     ("builtins:tuple", "__slots__")]),
   ("pathlib:PurePosixPath", "pathlib:PurePath",
    [("pathlib:_PosixFlavour", "_flavour")]),
   ("pathlib:PureWindowsPath", "pathlib:PurePath",
    [("pathlib:_WindowsFlavour", "_flavour")]),
   ("pathlib:WindowsPath", "pathlib:Path",
    [("pathlib:_WindowsFlavour", "_flavour")]),
   ("pathlib:_Flavour", "builtins:object",
    [("builtins:NoneType", "__text_signature__"),
     ("builtins:dict", "__annotations__"),
     ("builtins:function", "__init__ join_parsed_parts parse_parts"),
     ("builtins:getset_descriptor", "__weakref__")]),
   ("pathlib:_PathParents", "collections.abc:Sequence",
    [("builtins:function", "__init__ __repr__"),
     ("builtins:member_descriptor", "_drv _parts _pathcls _root")]),
   ("pathlib:_PosixFlavour", "pathlib:_Flavour",
    [("builtins:NoneType", "__doc__"),
     ("builtins:bool", "has_drv is_supported"),
     ("builtins:function",
       "casefold casefold_parts compile_pattern is_reserved make_uri splitroot"),
     ("builtins:str", "altsep sep"),
     ("module", "pathmod=posixpath")]),
   ("pathlib:_PreciseSelector", "pathlib:_Selector",
    [("builtins:NoneType", "__doc__"),
     ("builtins:function", "_select_from")]),
   ("pathlib:_RecursiveWildcardSelector", "pathlib:_Selector",
    [("builtins:NoneType", "__doc__"),
     ("builtins:function", "_iterate_directories _select_from")]),
   ("pathlib:_Selector", "builtins:object",
    [("builtins:NoneType", "__text_signature__"),
     ("builtins:dict", "__annotations__"),
     ("builtins:function", "__init__ select_from"),
     ("builtins:getset_descriptor", "__weakref__")]),
   ("pathlib:_TerminatingSelector", "builtins:object",
    [("builtins:NoneType", "__doc__ __text_signature__"),
     ("builtins:dict", "__annotations__"),
     ("builtins:function", "_select_from"),
     ("builtins:getset_descriptor", "__weakref__")]),
   ("pathlib:_WildcardSelector", "pathlib:_Selector",
    [("builtins:NoneType", "__doc__"),
     ("builtins:function", "_select_from")]),
   ("pathlib:_WindowsFlavour", "pathlib:_Flavour",
    [("builtins:NoneType", "__doc__"),
     ("builtins:bool", "has_drv is_supported"),
     ("builtins:function",
       "_split_extended_path casefold casefold_parts compile_pattern is_reserved make_uri " ++
       "splitroot"),
     ("builtins:set", "drive_letters reserved_names"),
     ("builtins:str", "altsep ext_namespace_prefix sep"),
     ("module", "pathmod=ntpath")]),
   ("typing:Any", "builtins:object",
    [("builtins:NoneType", "__text_signature__"),
     ("builtins:dict", "__annotations__"),
     ("builtins:function", "__new__"),
     ("builtins:getset_descriptor", "__weakref__"),
     ("builtins:method", "__instancecheck__")]),
   ("typing:Generic", "builtins:object",
    [("builtins:NoneType", "__text_signature__"),
     ("builtins:bool", "_is_protocol"),
     ("builtins:dict", "__annotations__"),
     ("builtins:method", "__class_getitem__ __init_subclass__"),
     ("builtins:tuple", "__slots__")]),
   ("typing:Protocol", "typing:Generic",
    [("_abc:_abc_data", "_abc_impl"),
     ("builtins:bool", "_is_runtime_protocol"),
     ("builtins:frozenset", "__abstractmethods__"),
     ("builtins:method",
       "__instancecheck__ __subclasscheck__ _abc_caches_clear _abc_registry_clear " ++
       "_dump_registry register"),
     ("builtins:tuple", "__parameters__")]),
   ("uuid:SafeUUID", "enum:Enum",
    [("uuid:SafeUUID", "safe unknown unsafe")]),
   ("uuid:UUID", "builtins:object",
    [("builtins:NoneType", "__text_signature__"),
     ("builtins:dict", "__annotations__"),
     ("builtins:function",
       "__eq__ __ge__ __getstate__ __gt__ __hash__ __init__ __int__ __le__ __lt__ __repr__ " ++
       "__setattr__ __setstate__ __str__"),
     ("builtins:getset_descriptor", "__weakref__"),
     ("builtins:member_descriptor", "int is_safe"),
     ("builtins:property",
       "bytes bytes_le clock_seq clock_seq_hi_variant clock_seq_low fields hex node time " ++
       "time_hi_version time_low time_mid urn variant version"),
     ("builtins:tuple", "__slots__")])]

end KeyTree
