/-
# Standard classes

The classes that go by a name in a standard module, in one of the modules of the generator
or among the builtins. A word is the name of a class of the module itself; a word with an
equals sign is a name under which a module has a class of another module.

* `standardClasses` — the classes of each module.
* `classesOfClasses` — the classes that are no instance of the ordinary class of classes.
* `flagClasses`, `compiledClasses` — the enumerations of flags, and the classes that go by
  their module and their name.
-/

import KeyTree.Class.Name

namespace KeyTree

/-- The names of classes in each module. -/
def standardClasses : List (String × String) :=
  [("abc",
     "ABC ABCMeta __loader__=_frozen_importlib:FrozenImporter abstractclassmethod " ++
     "abstractproperty abstractstaticmethod"),
   ("argparse",
     "Action ArgumentDefaultsHelpFormatter ArgumentError ArgumentParser ArgumentTypeError " ++
     "BooleanOptionalAction FileType HelpFormatter MetavarTypeHelpFormatter Namespace " ++
     "RawDescriptionHelpFormatter RawTextHelpFormatter _ActionsContainer _AppendAction " ++
     "_AppendConstAction _ArgumentGroup _AttributeHolder _CountAction _ExtendAction " ++
     "_HelpAction _MutuallyExclusiveGroup _StoreAction _StoreConstAction _StoreFalseAction " ++
     "_StoreTrueAction _SubParsersAction _VersionAction"),
   ("array", "ArrayType=array:array __loader__=_frozen_importlib:BuiltinImporter array"),
   ("builtins",
     "ArithmeticError AssertionError AttributeError BaseException BaseExceptionGroup " ++
     "BlockingIOError BrokenPipeError BufferError BytesWarning ChildProcessError " ++
     "ConnectionAbortedError ConnectionError ConnectionRefusedError ConnectionResetError " ++
     "DeprecationWarning EOFError EncodingWarning EnvironmentError=builtins:OSError Exception " ++
     "ExceptionGroup FileExistsError FileNotFoundError FloatingPointError FutureWarning " ++
     "GeneratorExit IOError=builtins:OSError ImportError ImportWarning IndentationError " ++
     "IndexError InterruptedError IsADirectoryError KeyError KeyboardInterrupt LookupError " ++
     "MemoryError ModuleNotFoundError NameError NotADirectoryError NotImplementedError " ++
     "OSError OverflowError PendingDeprecationWarning PermissionError ProcessLookupError " ++
     "RecursionError ReferenceError ResourceWarning RuntimeError RuntimeWarning " ++
     "StopAsyncIteration StopIteration SyntaxError SyntaxWarning SystemError SystemExit " ++
     "TabError TimeoutError TypeError UnboundLocalError UnicodeDecodeError UnicodeEncodeError " ++
     "UnicodeError UnicodeTranslateError UnicodeWarning UserWarning ValueError Warning " ++
     "ZeroDivisionError __loader__=_frozen_importlib:BuiltinImporter bool bytearray bytes " ++
     "classmethod complex dict enumerate filter float frozenset int list map memoryview " ++
     "object property range reversed set slice staticmethod str super tuple type zip"),
   ("calendar",
     "Calendar HTMLCalendar IllegalMonthError IllegalWeekdayError LocaleHTMLCalendar " ++
     "LocaleTextCalendar TextCalendar _localized_day _localized_month different_locale " ++
     "error=builtins:ValueError repeat=itertools:repeat"),
   ("codecs",
     "BufferedIncrementalDecoder BufferedIncrementalEncoder Codec CodecInfo " ++
     "IncrementalDecoder IncrementalEncoder StreamReader StreamReaderWriter StreamRecoder " ++
     "StreamWriter __loader__=_frozen_importlib:FrozenImporter"),
   ("collections",
     "ChainMap Counter OrderedDict UserDict UserList UserString _Link _OrderedDictItemsView " ++
     "_OrderedDictKeysView _OrderedDictValuesView _chain=itertools:chain " ++
     "_itemgetter=operator:itemgetter _repeat=itertools:repeat _starmap=itertools:starmap " ++
     "_tuplegetter=_collections:_tuplegetter defaultdict deque"),
   ("collections.abc",
     "AsyncGenerator AsyncIterable AsyncIterator Awaitable ByteString Callable Collection " ++
     "Container Coroutine Generator Hashable ItemsView Iterable Iterator KeysView Mapping " ++
     "MappingView MutableMapping MutableSequence MutableSet Reversible Sequence Set Sized " ++
     "ValuesView _CallableGenericAlias"),
   ("configparser",
     "BasicInterpolation ConfigParser ConverterMapping DuplicateOptionError " ++
     "DuplicateSectionError Error ExtendedInterpolation Interpolation InterpolationDepthError " ++
     "InterpolationError InterpolationMissingOptionError InterpolationSyntaxError " ++
     "LegacyInterpolation MissingSectionHeaderError " ++
     "MutableMapping=collections.abc:MutableMapping NoOptionError NoSectionError ParsingError " ++
     "RawConfigParser SafeConfigParser SectionProxy _ChainMap=collections:ChainMap " ++
     "_default_dict=builtins:dict"),
   ("contextlib",
     "AbstractAsyncContextManager AbstractContextManager AsyncContextDecorator AsyncExitStack " ++
     "ContextDecorator ExitStack GenericAlias=types:GenericAlias MethodType=builtins:method " ++
     "_AsyncGeneratorContextManager _BaseExitStack _GeneratorContextManager " ++
     "_GeneratorContextManagerBase _RedirectStream aclosing chdir closing " ++
     "deque=collections:deque nullcontext redirect_stderr redirect_stdout suppress"),
   ("contextvars",
     "Context=_contextvars:Context ContextVar=_contextvars:ContextVar " ++
     "Token=_contextvars:Token"),
   ("copy", "Error error=copy:Error"),
   ("csv",
     "Dialect DictReader DictWriter Error=_csv:Error Sniffer StringIO=_io:StringIO " ++
     "_Dialect=_csv:Dialect excel excel_tab unix_dialect"),
   ("dataclasses",
     "Field FrozenInstanceError FunctionType=builtins:function " ++
     "GenericAlias=types:GenericAlias InitVar _DataclassParams _FIELD_BASE " ++
     "_HAS_DEFAULT_FACTORY_CLASS _KW_ONLY_TYPE _MISSING_TYPE"),
   ("datetime", "date datetime time timedelta timezone tzinfo"),
   ("decimal",
     "Clamped Context ConversionSyntax Decimal DecimalException DecimalTuple DivisionByZero " ++
     "DivisionImpossible DivisionUndefined FloatOperation Inexact InvalidContext " ++
     "InvalidOperation Overflow Rounded Subnormal Underflow"),
   ("difflib", "Differ GenericAlias=types:GenericAlias HtmlDiff Match SequenceMatcher"),
   ("email", ""),
   ("enum",
     "DynamicClassAttribute=types:DynamicClassAttribute Enum EnumCheck EnumMeta=enum:EnumType " ++
     "EnumType Flag FlagBoundary IntEnum IntFlag MappingProxyType=builtins:mappingproxy " ++
     "ReprEnum StrEnum _EnumDict _proto_member auto member nonmember property verify"),
   ("fractions", "Decimal=decimal:Decimal Fraction"),
   ("functools",
     "GenericAlias=types:GenericAlias RLock=_thread:RLock _CacheInfo=functools:CacheInfo " ++
     "_HashedSeq _lru_cache_wrapper cached_property partial partialmethod " ++
     "singledispatchmethod"),
   ("gc", "__loader__=_frozen_importlib:BuiltinImporter"),
   ("glob", ""),
   ("hashlib", "blake2b=_blake2:blake2b blake2s=_blake2:blake2s"),
   ("heapq", ""),
   ("html", ""),
   ("http", "HTTPMethod HTTPStatus IntEnum=enum:IntEnum StrEnum=enum:StrEnum"),
   ("importlib", ""),
   ("io",
     "BlockingIOError=builtins:BlockingIOError BufferedIOBase " ++
     "BufferedRWPair=_io:BufferedRWPair BufferedRandom=_io:BufferedRandom " ++
     "BufferedReader=_io:BufferedReader BufferedWriter=_io:BufferedWriter BytesIO=_io:BytesIO " ++
     "FileIO=_io:FileIO IOBase IncrementalNewlineDecoder=_io:IncrementalNewlineDecoder " ++
     "RawIOBase StringIO=_io:StringIO TextIOBase TextIOWrapper=_io:TextIOWrapper " ++
     "UnsupportedOperation __loader__=_frozen_importlib:FrozenImporter"),
   ("ipaddress",
     "AddressValueError IPv4Address IPv4Interface IPv4Network IPv6Address IPv6Interface " ++
     "IPv6Network NetmaskValueError _BaseAddress _BaseConstants _BaseNetwork _BaseV4 _BaseV6 " ++
     "_IPAddressBase _IPv4Constants _IPv6Constants"),
   ("itertools",
     "__loader__=_frozen_importlib:BuiltinImporter _grouper _tee _tee_dataobject accumulate " ++
     "chain combinations combinations_with_replacement compress count cycle dropwhile " ++
     "filterfalse groupby islice pairwise permutations product repeat starmap takewhile " ++
     "zip_longest"),
   ("json",
     "JSONDecodeError=json.decoder:JSONDecodeError JSONDecoder=json.decoder:JSONDecoder " ++
     "JSONEncoder=json.encoder:JSONEncoder"),
   ("json.decoder", "JSONDecodeError JSONDecoder"),
   ("json.encoder", "JSONEncoder c_make_encoder=_json:Encoder"),
   ("keyword", ""),
   ("logging",
     "BufferingFormatter FileHandler Filter Filterer Formatter " ++
     "GenericAlias=types:GenericAlias Handler LogRecord Logger LoggerAdapter Manager " ++
     "NullHandler PercentStyle PlaceHolder RootLogger StrFormatStyle StreamHandler " ++
     "StringTemplateStyle Template=string:Template _StderrHandler " ++
     "_logRecordFactory=logging:LogRecord _loggerClass=logging:Logger"),
   ("lookupgen",
     "ArityMismatchError=lookupgen.matching.errors:ArityMismatchError " ++
     "ComparisonMode=lookupgen.matching.protocols:ComparisonMode " ++
     "DuplicateKeyError=lookupgen.matching.errors:DuplicateKeyError " ++
     "EmptyKeySetError=lookupgen.matching.errors:EmptyKeySetError " ++
     "LookupResult=lookupgen.matching.engine:LookupResult " ++
     "Matcher=lookupgen.matching.engine:Matcher " ++
     "MatcherBuildError=lookupgen.matching.errors:MatcherBuildError"),
   ("lookupgen.emit",
     "PythonRenderer=lookupgen.emit.python:PythonRenderer " ++
     "SourceWriter=lookupgen.emit.writer:SourceWriter"),
   ("lookupgen.emit.python",
     "Any=typing:Any CharTest=lookupgen.matching.nodes:CharTest " ++
     "Leaf=lookupgen.matching.nodes:Leaf LengthSplit=lookupgen.matching.nodes:LengthSplit " ++
     "LengthTest=lookupgen.matching.nodes:LengthTest " ++
     "Matcher=lookupgen.matching.engine:Matcher Miss=lookupgen.matching.nodes:Miss " ++
     "PythonRenderer SourceWriter=lookupgen.emit.writer:SourceWriter _Function"),
   ("lookupgen.emit.writer", "SourceWriter"),
   ("lookupgen.matching",
     "ArityMismatchError=lookupgen.matching.errors:ArityMismatchError " ++
     "CharTest=lookupgen.matching.nodes:CharTest " ++
     "ComparisonMode=lookupgen.matching.protocols:ComparisonMode " ++
     "DuplicateKeyError=lookupgen.matching.errors:DuplicateKeyError " ++
     "EmptyKeySetError=lookupgen.matching.errors:EmptyKeySetError " ++
     "Key=lookupgen.matching.keys:Key KeySet=lookupgen.matching.keys:KeySet " ++
     "Leaf=lookupgen.matching.nodes:Leaf LengthSplit=lookupgen.matching.nodes:LengthSplit " ++
     "LengthTest=lookupgen.matching.nodes:LengthTest " ++
     "LookupResult=lookupgen.matching.engine:LookupResult " ++
     "LookupTrace=lookupgen.matching.engine:LookupTrace " ++
     "Matcher=lookupgen.matching.engine:Matcher " ++
     "MatcherBuildError=lookupgen.matching.errors:MatcherBuildError " ++
     "Miss=lookupgen.matching.nodes:Miss Renderer=lookupgen.matching.protocols:Renderer " ++
     "UnrenderableValueError=lookupgen.matching.errors:UnrenderableValueError"),
   ("lookupgen.matching.builder",
     "Any=typing:Any CharTest=lookupgen.matching.nodes:CharTest " ++
     "ComparisonMode=lookupgen.matching.protocols:ComparisonMode " ++
     "DuplicateKeyError=lookupgen.matching.errors:DuplicateKeyError " ++
     "Key=lookupgen.matching.keys:Key KeySet=lookupgen.matching.keys:KeySet " ++
     "Leaf=lookupgen.matching.nodes:Leaf Matcher=lookupgen.matching.engine:Matcher"),
   ("lookupgen.matching.discriminate", "Key=lookupgen.matching.keys:Key"),
   ("lookupgen.matching.engine",
     "Any=typing:Any CharTest=lookupgen.matching.nodes:CharTest " ++
     "ComparisonMode=lookupgen.matching.protocols:ComparisonMode " ++
     "Leaf=lookupgen.matching.nodes:Leaf LengthSplit=lookupgen.matching.nodes:LengthSplit " ++
     "LengthTest=lookupgen.matching.nodes:LengthTest LookupResult LookupTrace Matcher"),
   ("lookupgen.matching.errors",
     "Any=typing:Any ArityMismatchError DuplicateKeyError EmptyKeySetError MatcherBuildError " ++
     "UnrenderableValueError"),
   ("lookupgen.matching.keys",
     "Any=typing:Any ArityMismatchError=lookupgen.matching.errors:ArityMismatchError " ++
     "ComparisonMode=lookupgen.matching.protocols:ComparisonMode " ++
     "DuplicateKeyError=lookupgen.matching.errors:DuplicateKeyError " ++
     "EmptyKeySetError=lookupgen.matching.errors:EmptyKeySetError Key KeySet"),
   ("lookupgen.matching.nodes",
     "CharTest Key=lookupgen.matching.keys:Key Leaf LengthSplit LengthTest Miss"),
   ("lookupgen.matching.partition",
     "Key=lookupgen.matching.keys:Key KeySet=lookupgen.matching.keys:KeySet " ++
     "LengthSplit=lookupgen.matching.nodes:LengthSplit " ++
     "LengthTest=lookupgen.matching.nodes:LengthTest"),
   ("lookupgen.matching.protocols",
     "ComparisonMode Enum=enum:Enum Protocol=typing:Protocol Renderer"),
   ("lookupgen.values",
     "Any=typing:Any Enum=enum:Enum " ++
     "UnrenderableValueError=lookupgen.matching.errors:UnrenderableValueError"),
   ("lookupgen.yaml",
     "YAMLConfig=lookupgen.yaml.parser:YAMLConfig " ++
     "YAMLParseError=lookupgen.yaml.parser:YAMLParseError"),
   ("lookupgen.yaml.__main__", ""),
   ("lookupgen.yaml.converter",
     "Any=typing:Any Matcher=lookupgen.matching.engine:Matcher " ++
     "YAMLConfig=lookupgen.yaml.parser:YAMLConfig " ++
     "YAMLParseError=lookupgen.yaml.parser:YAMLParseError"),
   ("lookupgen.yaml.parser", "Any=typing:Any Path=pathlib:Path YAMLConfig YAMLParseError"),
   ("lookupgen.yaml.runner", "Path=pathlib:Path YAMLConfig=lookupgen.yaml.parser:YAMLConfig"),
   ("math", "__loader__=_frozen_importlib:BuiltinImporter"),
   ("numbers", "ABCMeta=abc:ABCMeta Complex Integral Number Rational Real"),
   ("operator", "attrgetter itemgetter methodcaller"),
   ("os",
     "DirEntry=posix:DirEntry GenericAlias=types:GenericAlias Mapping=collections.abc:Mapping " ++
     "MutableMapping=collections.abc:MutableMapping PathLike _Environ " ++
     "__loader__=_frozen_importlib:FrozenImporter _wrap_close error=builtins:OSError " ++
     "sched_param=posix:sched_param stat_result statvfs_result terminal_size " ++
     "times_result=posix:times_result uname_result=posix:uname_result " ++
     "waitid_result=posix:waitid_result"),
   ("os.path", "__loader__=_frozen_importlib:FrozenImporter"),
   ("pathlib",
     "Path PosixPath PurePath PurePosixPath PureWindowsPath Sequence=collections.abc:Sequence " ++
     "WindowsPath _Flavour _PathParents _PosixFlavour _PreciseSelector " ++
     "_RecursiveWildcardSelector _Selector _TerminatingSelector _WildcardSelector " ++
     "_WindowsFlavour attrgetter=operator:attrgetter"),
   ("pickle",
     "FunctionType=builtins:function PickleBuffer PickleError=_pickle:PickleError " ++
     "Pickler=_pickle:Pickler PicklingError=_pickle:PicklingError Unpickler=_pickle:Unpickler " ++
     "UnpicklingError=_pickle:UnpicklingError _Framer _Pickler _Stop _Unframer _Unpickler " ++
     "islice=itertools:islice partial=functools:partial"),
   ("platform", "_Processor uname_result"),
   ("pprint", "PrettyPrinter _StringIO=_io:StringIO _safe_key"),
   ("queue",
     "Empty=_queue:Empty Full LifoQueue PriorityQueue Queue SimpleQueue=_queue:SimpleQueue " ++
     "_PySimpleQueue deque=collections:deque"),
   ("random",
     "Random SystemRandom _Sequence=collections.abc:Sequence _Set=collections.abc:Set " ++
     "_accumulate=itertools:accumulate _repeat=itertools:repeat"),
   ("re", "Match Pattern RegexFlag Scanner error"),
   ("secrets", "SystemRandom=random:SystemRandom"),
   ("shutil",
     "Error ExecError ReadError RegistryError SameFileError SpecialFileError " ++
     "_GiveupOnFastCopy _ntuple_diskusage=shutil:usage"),
   ("statistics",
     "Counter=collections:Counter Decimal=decimal:Decimal Fraction=fractions:Fraction " ++
     "LinearRegression NormalDist StatisticsError defaultdict=collections:defaultdict " ++
     "groupby=itertools:groupby repeat=itertools:repeat"),
   ("string", "Formatter Template _ChainMap=collections:ChainMap"),
   ("struct", "Struct=_struct:Struct error"),
   ("subprocess",
     "CalledProcessError CompletedProcess Popen SubprocessError TimeoutExpired " ++
     "_PopenSelector=selectors:PollSelector"),
   ("sys", "__loader__=_frozen_importlib:BuiltinImporter"),
   ("tempfile",
     "SpooledTemporaryFile TemporaryDirectory _Random=random:Random _RandomNameSequence " ++
     "_TemporaryFileCloser _TemporaryFileWrapper"),
   ("textwrap", "TextWrapper"),
   ("threading",
     "Barrier BoundedSemaphore BrokenBarrierError Condition Event " ++
     "ExceptHookArgs=_thread:_ExceptHookArgs Semaphore Thread " ++
     "ThreadError=builtins:RuntimeError Timer WeakSet=_weakrefset:WeakSet " ++
     "_CRLock=_thread:RLock _DummyThread _MainThread _PyRLock=threading:_RLock _RLock " ++
     "_count=itertools:count _deque=collections:deque _islice=itertools:islice " ++
     "local=_thread:_local"),
   ("this", ""),
   ("time", "__loader__=_frozen_importlib:BuiltinImporter struct_time"),
   ("timeit", "Timer"),
   ("tokenize", "StopTokenizing TextIOWrapper=_io:TextIOWrapper TokenError TokenInfo Untokenizer"),
   ("traceback",
     "FrameSummary StackSummary TracebackException _Anchors _ExceptionPrintContext _Sentinel " ++
     "suppress=contextlib:suppress"),
   ("types",
     "AsyncGeneratorType=builtins:async_generator " ++
     "BuiltinFunctionType=builtins:builtin_function_or_method " ++
     "BuiltinMethodType=builtins:builtin_function_or_method CellType=builtins:cell " ++
     "ClassMethodDescriptorType=builtins:classmethod_descriptor CodeType=builtins:code " ++
     "CoroutineType=builtins:coroutine DynamicClassAttribute EllipsisType=builtins:ellipsis " ++
     "FrameType=builtins:frame FunctionType=builtins:function " ++
     "GeneratorType=builtins:generator GenericAlias " ++
     "GetSetDescriptorType=builtins:getset_descriptor LambdaType=builtins:function " ++
     "MappingProxyType=builtins:mappingproxy MemberDescriptorType=builtins:member_descriptor " ++
     "MethodDescriptorType=builtins:method_descriptor MethodType=builtins:method " ++
     "MethodWrapperType=builtins:method-wrapper ModuleType=builtins:module " ++
     "NoneType=builtins:NoneType NotImplementedType=builtins:NotImplementedType " ++
     "SimpleNamespace TracebackType=builtins:traceback UnionType " ++
     "WrapperDescriptorType=builtins:wrapper_descriptor _GeneratorWrapper"),
   ("typing",
     "ABCMeta=abc:ABCMeta Annotated Any BinaryIO ForwardRef Generic " ++
     "GenericAlias=types:GenericAlias IO MethodDescriptorType=builtins:method_descriptor " ++
     "MethodWrapperType=builtins:method-wrapper NamedTupleMeta NewType ParamSpec " ++
     "ParamSpecArgs ParamSpecKwargs Protocol SupportsAbs SupportsBytes SupportsComplex " ++
     "SupportsFloat SupportsIndex SupportsInt SupportsRound Text=builtins:str TextIO TypeVar " ++
     "TypeVarTuple WrapperDescriptorType=builtins:wrapper_descriptor _AnnotatedAlias _AnyMeta " ++
     "_BaseGenericAlias _BoundVarianceMixin _CallableGenericAlias _CallableType " ++
     "_ConcatenateGenericAlias _DeprecatedType _Final _GenericAlias _Immutable " ++
     "_LiteralGenericAlias _LiteralSpecialForm _NamedTuple=typing:NamedTuple _NotIterable " ++
     "_PickleUsingNameMixin _ProtocolMeta _SpecialForm _SpecialGenericAlias _TupleType " ++
     "_TypedDict=typing:TypedDict _TypedDictMeta _TypingEllipsis _UnionGenericAlias " ++
     "_UnpackGenericAlias _alias=typing:_SpecialGenericAlias " ++
     "defaultdict=collections:defaultdict io re"),
   ("urllib.parse",
     "DefragResult DefragResultBytes ParseResult ParseResultBytes " ++
     "ResultBase=urllib.parse:_NetlocResultMixinStr SplitResult SplitResultBytes " ++
     "_DefragResultBase=urllib.parse:DefragResult _NetlocResultMixinBase " ++
     "_NetlocResultMixinBytes _NetlocResultMixinStr _ParseResultBase=urllib.parse:ParseResult " ++
     "_Quoter _ResultMixinBytes _ResultMixinStr _SplitResultBase=urllib.parse:SplitResult"),
   ("uuid", "Enum=enum:Enum SafeUUID UUID bytes_=builtins:bytes int_=builtins:int"),
   ("warnings", "WarningMessage _OptionError catch_warnings"),
   ("weakref",
     "CallableProxyType KeyedRef ProxyType ReferenceType WeakKeyDictionary WeakMethod " ++
     "WeakSet=_weakrefset:WeakSet WeakValueDictionary " ++
     "_IterationGuard=_weakrefset:_IterationGuard finalize ref=weakref:ReferenceType"),
   ("zipfile",
     "BadZipFile BadZipfile=zipfile:BadZipFile CompleteDirs FastLookup LZMACompressor " ++
     "LZMADecompressor LargeZipFile Path PyZipFile ZipExtFile ZipFile ZipInfo _SharedFile " ++
     "_Tellable _ZipWriteFile error=zipfile:BadZipFile"),
   ("zlib", "__loader__=_frozen_importlib:BuiltinImporter error"),
   ("zoneinfo",
     "InvalidTZPathWarning=zoneinfo._tzpath:InvalidTZPathWarning ZoneInfo " ++
     "ZoneInfoNotFoundError=zoneinfo._common:ZoneInfoNotFoundError")]

/-- The classes that other classes are instances of, each with its instances by module. -/
def classesOfClasses : List (String × List (String × String)) :=
  [("abc:ABCMeta",
    [("abc", "ABC"),
     ("collections",
       "ChainMap UserDict UserList UserString _OrderedDictItemsView _OrderedDictKeysView " ++
       "_OrderedDictValuesView"),
     ("collections.abc",
       "AsyncGenerator AsyncIterable AsyncIterator Awaitable ByteString Callable Collection " ++
       "Container Coroutine Generator Hashable ItemsView Iterable Iterator KeysView Mapping " ++
       "MappingView MutableMapping MutableSequence MutableSet Reversible Sequence Set Sized " ++
       "ValuesView"),
     ("configparser",
       "ConfigParser ConverterMapping RawConfigParser SafeConfigParser SectionProxy"),
     ("contextlib",
       "AbstractAsyncContextManager AbstractContextManager AsyncExitStack ExitStack " ++
       "_AsyncGeneratorContextManager _GeneratorContextManager _RedirectStream aclosing chdir " ++
       "closing nullcontext redirect_stderr redirect_stdout suppress"),
     ("fractions", "Fraction"),
     ("io", "BufferedIOBase IOBase RawIOBase TextIOBase"),
     ("numbers", "Complex Integral Number Rational Real"),
     ("os", "PathLike _Environ"),
     ("pathlib", "_PathParents"),
     ("selectors", "PollSelector"),
     ("tempfile", "SpooledTemporaryFile"),
     ("weakref", "WeakKeyDictionary WeakValueDictionary"),
     ("zipfile", "ZipExtFile _ZipWriteFile")]),
   ("enum:EnumType",
    [("enum", "Enum EnumCheck Flag FlagBoundary IntEnum IntFlag ReprEnum StrEnum"),
     ("http", "HTTPMethod HTTPStatus"),
     ("lookupgen.matching.protocols", "ComparisonMode"),
     ("re", "RegexFlag"),
     ("uuid", "SafeUUID")]),
   ("typing:NamedTupleMeta",
    [("typing", "NamedTuple")]),
   ("typing:_AnyMeta",
    [("typing", "Any")]),
   ("typing:_DeprecatedType",
    [("typing", "io re")]),
   ("typing:_ProtocolMeta",
    [("lookupgen.matching.protocols", "Renderer"),
     ("typing",
       "Protocol SupportsAbs SupportsBytes SupportsComplex SupportsFloat SupportsIndex " ++
       "SupportsInt SupportsRound")]),
   ("typing:_TypedDictMeta",
    [("typing", "TypedDict")])]

/-- The enumerations whose members are sets of flags, by module. -/
def flagClasses : List (String × String) :=
  [("enum", "Flag IntFlag"),
   ("re", "RegexFlag")]

/-- The classes that are known by their module and their name together, by module. -/
def compiledClasses : List (String × String) :=
  [("_blake2", "blake2b blake2s"),
   ("_collections", "_tuplegetter"),
   ("_contextvars", "Context ContextVar Token"),
   ("_csv", "Dialect Error"),
   ("_io",
     "BufferedRWPair BufferedRandom BufferedReader BufferedWriter BytesIO FileIO " ++
     "IncrementalNewlineDecoder StringIO TextIOWrapper"),
   ("_json", "Encoder"),
   ("_pickle", "Pickler Unpickler"),
   ("_queue", "SimpleQueue"),
   ("_struct", "Struct"),
   ("_thread", "RLock _ExceptHookArgs _local"),
   ("array", "array"),
   ("collections", "OrderedDict defaultdict deque"),
   ("datetime", "date datetime time timedelta timezone tzinfo"),
   ("decimal", "Context Decimal"),
   ("functools", "_lru_cache_wrapper partial"),
   ("itertools",
     "_grouper _tee _tee_dataobject accumulate chain combinations " ++
     "combinations_with_replacement compress count cycle dropwhile filterfalse groupby islice " ++
     "pairwise permutations product repeat starmap takewhile zip_longest"),
   ("operator", "attrgetter itemgetter methodcaller"),
   ("os", "stat_result statvfs_result terminal_size"),
   ("pickle", "PickleBuffer"),
   ("posix", "DirEntry sched_param times_result uname_result waitid_result"),
   ("re", "Match Pattern"),
   ("time", "struct_time"),
   ("types", "GenericAlias SimpleNamespace UnionType"),
   ("typing", "io re"),
   ("weakref", "CallableProxyType ProxyType ReferenceType"),
   ("zoneinfo", "ZoneInfo")]

end KeyTree
