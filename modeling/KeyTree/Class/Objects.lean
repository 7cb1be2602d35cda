/-
# Objects of modules

The attributes of modules that are no classes. They are listed by the class of the object;
under `module` each name stands with the module that it leads to.
-/

namespace KeyTree

/-- The attributes of each module that are no classes, by their class. -/
def moduleObjects : List (String × List (String × String)) :=
  [("abc",
    [("_frozen_importlib:ModuleSpec", "__spec__"),
     ("builtins:builtin_function_or_method",
       "_abc_init _abc_instancecheck _abc_register _abc_subclasscheck _get_dump _reset_caches " ++
       "_reset_registry get_cache_token"),
     ("builtins:dict", "__builtins__"),
     ("builtins:function", "abstractmethod update_abstractmethods"),
     ("builtins:str", "__doc__ __file__ __name__ __package__")]),
   ("builtins",
    [("_frozen_importlib:ModuleSpec", "__spec__"),
     ("_sitebuiltins:Quitter", "exit quit"),
     ("_sitebuiltins:_Helper", "help"),
     ("_sitebuiltins:_Printer", "copyright credits license"),
     ("builtins:NoneType", "None"),
     ("builtins:NotImplementedType", "NotImplemented"),
     ("builtins:bool", "False True __debug__"),
     ("builtins:builtin_function_or_method",
       "__build_class__ __import__ abs aiter all anext any ascii bin breakpoint callable chr " ++
       "compile delattr dir divmod eval exec format getattr globals hasattr hash hex id input " ++
       "isinstance issubclass iter len locals max min next oct open ord pow print repr round " ++
       "setattr sorted sum vars"),
     ("builtins:ellipsis", "Ellipsis"),
     ("builtins:str", "__doc__ __name__ __package__")]),
   ("collections",
    [("_frozen_importlib:ModuleSpec", "__spec__"),
     ("_frozen_importlib_external:SourceFileLoader", "__loader__"),
     ("builtins:builtin_function_or_method", "_count_elements _eq _iskeyword _proxy"),
     ("builtins:dict", "__builtins__"),
     ("builtins:function", "_recursive_repr namedtuple"),
     ("builtins:list", "__all__ __path__"),
     ("builtins:str", "__cached__ __doc__ __file__ __name__ __package__"),
     ("module", "_collections_abc=collections.abc _sys=sys abc=collections.abc")]),
   ("collections.abc",
    [("_frozen_importlib:ModuleSpec", "__spec__"),
     ("_frozen_importlib_external:SourceFileLoader", "__loader__"),
     ("builtins:NoneType", "__doc__"),
     ("builtins:dict", "__builtins__"),
     ("builtins:list", "__all__"),
     ("builtins:str", "__cached__ __file__ __name__ __package__")]),
   ("datetime",
    [("_frozen_importlib:ModuleSpec", "__spec__"),
     ("_frozen_importlib_external:SourceFileLoader", "__loader__"),
     ("builtins:PyCapsule", "datetime_CAPI"),
     ("builtins:dict", "__builtins__"),
     ("builtins:int", "MAXYEAR MINYEAR"),
     ("builtins:str", "__cached__ __doc__ __file__ __name__ __package__"),
     ("builtins:tuple", "__all__"),
     ("datetime:timezone", "UTC"),
     ("module", "sys=sys")]),
   ("decimal",
    [("_frozen_importlib:ModuleSpec", "__spec__"),
     ("_frozen_importlib_external:SourceFileLoader", "__loader__"),
     ("builtins:bool", "HAVE_CONTEXTVAR HAVE_THREADS"),
     ("builtins:builtin_function_or_method", "getcontext localcontext setcontext"),
     ("builtins:dict", "__builtins__"),
     ("builtins:int", "MAX_EMAX MAX_PREC MIN_EMIN MIN_ETINY"),
     ("builtins:str",
       "ROUND_05UP ROUND_CEILING ROUND_DOWN ROUND_FLOOR ROUND_HALF_DOWN ROUND_HALF_EVEN " ++
       "ROUND_HALF_UP ROUND_UP __cached__ __doc__ __file__ __libmpdec_version__ __name__ " ++
       "__package__ __version__"),
     ("decimal:Context", "BasicContext DefaultContext ExtendedContext")]),
   ("enum",
    [("_frozen_importlib:ModuleSpec", "__spec__"),
     ("_frozen_importlib_external:SourceFileLoader", "__loader__"),
     ("builtins:NoneType", "__doc__"),
     ("builtins:builtin_function_or_method", "_or_ reduce"),
     ("builtins:dict", "__builtins__"),
     ("builtins:function",
       "_dedent _high_bit _is_descriptor _is_dunder _is_internal_class _is_private " ++
       "_is_single_bit _is_sunder _iter_bits_lsb _make_class_unpicklable _old_convert_ " ++
       "_power_of_two _reduce_ex_by_global_name _simple_enum _test_simple_enum bin " ++
       "global_enum global_enum_repr global_flag_repr global_str pickle_by_enum_name " ++
       "pickle_by_global_name show_flag_values unique"),
     ("builtins:list", "__all__"),
     ("builtins:str", "__cached__ __file__ __name__ __package__"),
     ("builtins:tuple", "_stdlib_enums"),
     ("enum:EnumCheck", "CONTINUOUS NAMED_FLAGS UNIQUE"),
     ("enum:FlagBoundary", "CONFORM EJECT KEEP STRICT"),
     ("enum:_auto_null", "_auto_null"),
     ("module", "bltns=builtins sys=sys")]),
   ("fractions",
    [("_frozen_importlib:ModuleSpec", "__spec__"),
     ("_frozen_importlib_external:SourceFileLoader", "__loader__"),
     ("builtins:dict", "__builtins__"),
     ("builtins:int", "_PyHASH_INF _PyHASH_MODULUS"),
     ("builtins:list", "__all__"),
     ("builtins:str", "__cached__ __doc__ __file__ __name__ __package__"),
     ("module", "math=math numbers=numbers operator=operator re=re sys=sys"),
     ("re:Pattern", "_RATIONAL_FORMAT")]),
   ("io",
    [("_frozen_importlib:ModuleSpec", "__spec__"),
     ("builtins:builtin_function_or_method", "open open_code text_encoding"),
     ("builtins:dict", "__builtins__"),
     ("builtins:function", "__getattr__"),
     ("builtins:int", "DEFAULT_BUFFER_SIZE SEEK_CUR SEEK_END SEEK_SET"),
     ("builtins:list", "__all__"),
     ("builtins:str", "__author__ __doc__ __file__ __name__ __package__"),
     ("module", "_io=io abc=abc")]),
   ("json",
    [("_frozen_importlib:ModuleSpec", "__spec__"),
     ("_frozen_importlib_external:SourceFileLoader", "__loader__"),
     ("builtins:dict", "__builtins__"),
     ("builtins:function", "detect_encoding dump dumps load loads"),
     ("builtins:list", "__all__ __path__"),
     ("builtins:str", "__author__ __cached__ __doc__ __file__ __name__ __package__ __version__"),
     ("json.decoder:JSONDecoder", "_default_decoder"),
     ("json.encoder:JSONEncoder", "_default_encoder"),
     ("module", "codecs=codecs decoder=json.decoder encoder=json.encoder scanner=json.scanner")]),
   ("json.decoder",
    [("_frozen_importlib:ModuleSpec", "__spec__"),
     ("_frozen_importlib_external:SourceFileLoader", "__loader__"),
     ("builtins:builtin_function_or_method", "c_scanstring scanstring"),
     ("builtins:dict", "BACKSLASH _CONSTANTS __builtins__"),
     ("builtins:float", "NaN NegInf PosInf"),
     ("builtins:function", "JSONArray JSONObject _decode_uXXXX py_scanstring"),
     ("builtins:list", "__all__"),
     ("builtins:str", "WHITESPACE_STR __cached__ __doc__ __file__ __name__ __package__"),
     ("module", "re=re scanner=json.scanner"),
     ("re:Pattern", "STRINGCHUNK WHITESPACE"),
     ("re:RegexFlag", "FLAGS")]),
   ("lookupgen",
    [("_frozen_importlib:ModuleSpec", "__spec__"),
     ("_frozen_importlib_external:SourceFileLoader", "__loader__"),
     ("builtins:dict", "__builtins__"),
     ("builtins:function", "build_matcher"),
     ("builtins:list", "__all__ __path__"),
     ("builtins:str", "__cached__ __doc__ __file__ __name__ __package__ __version__"),
     ("module",
       "emit=lookupgen.emit matching=lookupgen.matching values=lookupgen.values " ++
       "yaml=lookupgen.yaml")]),
   ("lookupgen.emit",
    [("_frozen_importlib:ModuleSpec", "__spec__"),
     ("_frozen_importlib_external:SourceFileLoader", "__loader__"),
     ("builtins:dict", "__builtins__"),
     ("builtins:function", "compile_lookup render_module"),
     ("builtins:list", "__all__ __path__"),
     ("builtins:str", "__cached__ __doc__ __file__ __name__ __package__"),
     ("module", "python=lookupgen.emit.python writer=lookupgen.emit.writer")]),
   ("lookupgen.emit.python",
    [("_frozen_importlib:ModuleSpec", "__spec__"),
     ("_frozen_importlib_external:SourceFileLoader", "__loader__"),
     ("builtins:dict", "__builtins__"),
     ("builtins:function", "_check_function_name compile_lookup format_literal render_module"),
     ("builtins:int", "LINEAR_BRANCH_LIMIT MAX_NESTING"),
     ("builtins:str", "MODULE_HEADER __cached__ __doc__ __file__ __name__ __package__"),
     ("logging:Logger", "logger"),
     ("module", "keyword=keyword logging=logging"),
     ("typing:_CallableType", "Callable"),
     ("typing:_SpecialForm", "Optional"),
     ("typing:_SpecialGenericAlias", "Dict List Sequence Set"),
     ("typing:_TupleType", "Tuple"),
     ("typing:_UnionGenericAlias", "Node")]),
   ("lookupgen.emit.writer",
    [("_frozen_importlib:ModuleSpec", "__spec__"),
     ("_frozen_importlib_external:SourceFileLoader", "__loader__"),
     ("builtins:dict", "__builtins__"),
     ("builtins:function", "contextmanager"),
     ("builtins:str", "__cached__ __doc__ __file__ __name__ __package__"),
     ("typing:_SpecialGenericAlias", "Iterator List")]),
   ("lookupgen.matching",
    [("_frozen_importlib:ModuleSpec", "__spec__"),
     ("_frozen_importlib_external:SourceFileLoader", "__loader__"),
     ("builtins:dict", "__builtins__"),
     ("builtins:function",
       "build_length_dispatch build_matcher build_tree normalize_keys partition_by_length " ++
       "select_position split_on_position"),
     ("builtins:list", "__all__ __path__"),
     ("builtins:str", "__cached__ __doc__ __file__ __name__ __package__"),
     ("lookupgen.matching.nodes:Miss", "MISS"),
     ("module",
       "builder=lookupgen.matching.builder discriminate=lookupgen.matching.discriminate " ++
       "engine=lookupgen.matching.engine errors=lookupgen.matching.errors " ++
       "keys=lookupgen.matching.keys nodes=lookupgen.matching.nodes " ++
       "partition=lookupgen.matching.partition protocols=lookupgen.matching.protocols"),
     ("typing:_UnionGenericAlias", "Node")]),
   ("lookupgen.matching.builder",
    [("_frozen_importlib:ModuleSpec", "__spec__"),
     ("_frozen_importlib_external:SourceFileLoader", "__loader__"),
     ("builtins:dict", "__builtins__"),
     ("builtins:function",
       "_build_bucket _build_group build_length_dispatch build_matcher build_tree " ++
       "normalize_keys partition_by_length select_position split_on_position"),
     ("builtins:str", "__cached__ __doc__ __file__ __name__ __package__"),
     ("logging:Logger", "logger"),
     ("lookupgen.matching.nodes:Miss", "MISS"),
     ("module", "logging=logging"),
     ("typing:_SpecialForm", "Optional Union"),
     ("typing:_SpecialGenericAlias", "FrozenSet List Sequence"),
     ("typing:_TupleType", "Tuple"),
     ("typing:_UnionGenericAlias", "Node")]),
   ("lookupgen.matching.discriminate",
    [("_frozen_importlib:ModuleSpec", "__spec__"),
     ("_frozen_importlib_external:SourceFileLoader", "__loader__"),
     ("builtins:dict", "__builtins__"),
     ("builtins:function", "select_position split_on_position"),
     ("builtins:str", "__cached__ __doc__ __file__ __name__ __package__"),
     ("typing:_SpecialForm", "Optional"),
     ("typing:_SpecialGenericAlias", "AbstractSet Dict List Sequence"),
     ("typing:_TupleType", "Tuple")]),
   ("lookupgen.matching.engine",
    [("_frozen_importlib:ModuleSpec", "__spec__"),
     ("_frozen_importlib_external:SourceFileLoader", "__loader__"),
     ("builtins:dict", "__builtins__"),
     ("builtins:function", "NamedTuple dataclass field iter_leaves iter_nodes tree_depth"),
     ("builtins:str", "__cached__ __doc__ __file__ __name__ __package__"),
     ("typing:_SpecialForm", "Optional"),
     ("typing:_SpecialGenericAlias", "Iterator List"),
     ("typing:_UnionGenericAlias", "Node")]),
   ("lookupgen.matching.errors",
    [("_frozen_importlib:ModuleSpec", "__spec__"),
     ("_frozen_importlib_external:SourceFileLoader", "__loader__"),
     ("builtins:dict", "__builtins__"),
     ("builtins:str", "__cached__ __doc__ __file__ __name__ __package__")]),
   ("lookupgen.matching.keys",
    [("_frozen_importlib:ModuleSpec", "__spec__"),
     ("_frozen_importlib_external:SourceFileLoader", "__loader__"),
     ("builtins:dict", "__builtins__"),
     ("builtins:function", "_identity dataclass normalize_keys"),
     ("builtins:str", "__cached__ __doc__ __file__ __name__ __package__"),
     ("logging:Logger", "logger"),
     ("module", "logging=logging"),
     ("typing:_SpecialForm", "Optional"),
     ("typing:_SpecialGenericAlias", "Dict Sequence"),
     ("typing:_TupleType", "Tuple")]),
   ("lookupgen.matching.nodes",
    [("_frozen_importlib:ModuleSpec", "__spec__"),
     ("_frozen_importlib_external:SourceFileLoader", "__loader__"),
     ("builtins:dict", "__builtins__"),
     ("builtins:function", "children dataclass iter_leaves iter_nodes tree_depth"),
     ("builtins:str", "__cached__ __doc__ __file__ __name__ __package__"),
     ("lookupgen.matching.nodes:Miss", "MISS"),
     ("typing:_SpecialForm", "Union"),
     ("typing:_SpecialGenericAlias", "Iterator"),
     ("typing:_TupleType", "Tuple"),
     ("typing:_UnionGenericAlias", "Node")]),
   ("lookupgen.matching.partition",
    [("_frozen_importlib:ModuleSpec", "__spec__"),
     ("_frozen_importlib_external:SourceFileLoader", "__loader__"),
     ("builtins:dict", "__builtins__"),
     ("builtins:function", "_balanced _length_chain build_length_dispatch partition_by_length"),
     ("builtins:int", "LINEAR_LENGTH_LIMIT"),
     ("builtins:str", "__cached__ __doc__ __file__ __name__ __package__"),
     ("lookupgen.matching.nodes:Miss", "MISS"),
     ("typing:_CallableType", "Callable"),
     ("typing:_SpecialGenericAlias", "Dict List Sequence"),
     ("typing:_TupleType", "Tuple"),
     ("typing:_UnionGenericAlias", "Node")]),
   ("lookupgen.matching.protocols",
    [("_frozen_importlib:ModuleSpec", "__spec__"),
     ("_frozen_importlib_external:SourceFileLoader", "__loader__"),
     ("builtins:bool", "TYPE_CHECKING"),
     ("builtins:dict", "__builtins__"),
     ("builtins:function", "runtime_checkable"),
     ("builtins:str", "__cached__ __doc__ __file__ __name__ __package__"),
     ("typing:_SpecialForm", "Optional")]),
   ("lookupgen.values",
    [("_frozen_importlib:ModuleSpec", "__spec__"),
     ("_frozen_importlib_external:SourceFileLoader", "__loader__"),
     ("builtins:dict", "VALUE_TYPES _DEFAULTS __builtins__"),
     ("builtins:function",
       "_format_class default_for format_literal resolve_type_name resolve_value_type"),
     ("builtins:str", "__cached__ __doc__ __file__ __name__ __package__"),
     ("module", "builtins=builtins importlib=importlib math=math"),
     ("typing:_SpecialForm", "Optional"),
     ("typing:_SpecialGenericAlias", "Dict Set")]),
   ("lookupgen.yaml",
    [("_frozen_importlib:ModuleSpec", "__spec__"),
     ("_frozen_importlib_external:SourceFileLoader", "__loader__"),
     ("builtins:dict", "__builtins__"),
     ("builtins:function",
       "describe generate main parse_yaml_file parse_yaml_string yaml_to_matcher " ++
       "yaml_to_matchers"),
     ("builtins:list", "__all__ __path__"),
     ("builtins:str", "__cached__ __doc__ __file__ __name__ __package__"),
     ("module",
       "converter=lookupgen.yaml.converter parser=lookupgen.yaml.parser " ++
       "runner=lookupgen.yaml.runner")]),
   ("lookupgen.yaml.__main__",
    [("_frozen_importlib:ModuleSpec", "__spec__"),
     ("_frozen_importlib_external:SourceFileLoader", "__loader__"),
     ("builtins:dict", "__builtins__"),
     ("builtins:function", "main"),
     ("builtins:str", "__cached__ __doc__ __file__ __name__ __package__"),
     ("module", "sys=sys")]),
   ("lookupgen.yaml.converter",
    [("_frozen_importlib:ModuleSpec", "__spec__"),
     ("_frozen_importlib_external:SourceFileLoader", "__loader__"),
     ("builtins:dict", "__builtins__"),
     ("builtins:function",
       "_parse_value build_matcher resolve_type_name resolve_value_type yaml_to_matcher " ++
       "yaml_to_matchers"),
     ("builtins:str", "__cached__ __doc__ __file__ __name__ __package__"),
     ("typing:_SpecialGenericAlias", "Dict List")]),
   ("lookupgen.yaml.parser",
    [("_frozen_importlib:ModuleSpec", "__spec__"),
     ("_frozen_importlib_external:SourceFileLoader", "__loader__"),
     ("builtins:dict", "VALUE_TYPES __builtins__"),
     ("builtins:function",
       "_validate_lookup _validate_value _validate_yaml_data dataclass field parse_yaml_file " ++
       "parse_yaml_string"),
     ("builtins:str", "__cached__ __doc__ __file__ __name__ __package__"),
     ("module", "keyword=keyword yaml=yaml"),
     ("typing:_SpecialForm", "Union"),
     ("typing:_SpecialGenericAlias", "Dict List")]),
   ("lookupgen.yaml.runner",
    [("_frozen_importlib:ModuleSpec", "__spec__"),
     ("_frozen_importlib_external:SourceFileLoader", "__loader__"),
     ("builtins:dict", "__builtins__"),
     ("builtins:function",
       "_collect_docs describe generate main parse_yaml_file render_module yaml_to_matchers"),
     ("builtins:str", "__cached__ __doc__ __file__ __name__ __package__"),
     ("logging:Logger", "logger"),
     ("module", "logging=logging sys=sys"),
     ("typing:_SpecialForm", "Optional Union"),
     ("typing:_SpecialGenericAlias", "List")]),
   ("math",
    [("_frozen_importlib:ModuleSpec", "__spec__"),
     ("builtins:builtin_function_or_method",
       "acos acosh asin asinh atan atan2 atanh cbrt ceil comb copysign cos cosh degrees dist " ++
       "erf erfc exp exp2 expm1 fabs factorial floor fmod frexp fsum gamma gcd hypot isclose " ++
       "isfinite isinf isnan isqrt lcm ldexp lgamma log log10 log1p log2 modf nextafter perm " ++
       "pow prod radians remainder sin sinh sqrt tan tanh trunc ulp"),
     ("builtins:float", "e inf nan pi tau"),
     ("builtins:str", "__doc__ __name__ __package__")]),
   ("numbers",
    [("_frozen_importlib:ModuleSpec", "__spec__"),
     ("_frozen_importlib_external:SourceFileLoader", "__loader__"),
     ("builtins:dict", "__builtins__"),
     ("builtins:function", "abstractmethod"),
     ("builtins:list", "__all__"),
     ("builtins:str", "__cached__ __doc__ __file__ __name__ __package__")]),
   ("os",
    [("_frozen_importlib:ModuleSpec", "__spec__"),
     ("builtins:NoneType", "altsep"),
     ("builtins:bool", "supports_bytes_environ"),
     ("builtins:builtin_function_or_method",
       "WCOREDUMP WEXITSTATUS WIFCONTINUED WIFEXITED WIFSIGNALED WIFSTOPPED WSTOPSIG WTERMSIG " ++
       "_exit abort access chdir chmod chown chroot close closerange confstr cpu_count " ++
       "ctermid device_encoding dup dup2 eventfd eventfd_read eventfd_write execv execve " ++
       "fchdir fchmod fchown fdatasync fork forkpty fpathconf fspath fstat fstatvfs fsync " ++
       "ftruncate get_blocking get_inheritable get_terminal_size getcwd getcwdb getegid " ++
       "geteuid getgid getgrouplist getgroups getloadavg getlogin getpgid getpgrp getpid " ++
       "getppid getpriority getresgid getresuid getsid getuid getxattr initgroups isatty kill " ++
       "killpg lchown link listdir listxattr lockf login_tty lseek lstat major makedev minor " ++
       "mkdir mkfifo mknod nice open openpty pathconf pipe pipe2 posix_fadvise " ++
       "posix_fallocate posix_spawn posix_spawnp pread preadv putenv pwrite pwritev read " ++
       "readlink readv register_at_fork remove removexattr rename replace rmdir scandir " ++
       "sched_get_priority_max sched_get_priority_min sched_getaffinity sched_getparam " ++
       "sched_getscheduler sched_rr_get_interval sched_setaffinity sched_setparam " ++
       "sched_setscheduler sched_yield sendfile set_blocking set_inheritable setegid seteuid " ++
       "setgid setgroups setpgid setpgrp setpriority setregid setresgid setresuid setreuid " ++
       "setsid setuid setxattr splice stat statvfs strerror symlink sync sysconf system " ++
       "tcgetpgrp tcsetpgrp times truncate ttyname umask uname unlink unsetenv urandom utime " ++
       "wait wait3 wait4 waitid waitpid waitstatus_to_exitcode write writev"),
     ("builtins:dict", "__builtins__ confstr_names pathconf_names sysconf_names"),
     ("builtins:function",
       "_check_methods _execvpe _exists _fspath _fwalk _get_exports_list _spawnvef _walk " ++
       "execl execle execlp execlpe execvp execvpe fdopen fsdecode fsencode fwalk " ++
       "get_exec_path getenv getenvb makedirs popen removedirs renames spawnl spawnle spawnlp " ++
       "spawnlpe spawnv spawnve spawnvp spawnvpe walk"),
     ("builtins:int",
       "CLD_CONTINUED CLD_DUMPED CLD_EXITED CLD_KILLED CLD_STOPPED CLD_TRAPPED EFD_CLOEXEC " ++
       "EFD_NONBLOCK EFD_SEMAPHORE EX_CANTCREAT EX_CONFIG EX_DATAERR EX_IOERR EX_NOHOST " ++
       "EX_NOINPUT EX_NOPERM EX_NOUSER EX_OK EX_OSERR EX_OSFILE EX_PROTOCOL EX_SOFTWARE " ++
       "EX_TEMPFAIL EX_UNAVAILABLE EX_USAGE F_LOCK F_OK F_TEST F_TLOCK F_ULOCK NGROUPS_MAX " ++
       "O_ACCMODE O_APPEND O_ASYNC O_CLOEXEC O_CREAT O_DIRECT O_DIRECTORY O_DSYNC O_EXCL " ++
       "O_FSYNC O_LARGEFILE O_NDELAY O_NOATIME O_NOCTTY O_NOFOLLOW O_NONBLOCK O_PATH O_RDONLY " ++
       "O_RDWR O_RSYNC O_SYNC O_TMPFILE O_TRUNC O_WRONLY POSIX_FADV_DONTNEED " ++
       "POSIX_FADV_NOREUSE POSIX_FADV_NORMAL POSIX_FADV_RANDOM POSIX_FADV_SEQUENTIAL " ++
       "POSIX_FADV_WILLNEED POSIX_SPAWN_CLOSE POSIX_SPAWN_DUP2 POSIX_SPAWN_OPEN PRIO_PGRP " ++
       "PRIO_PROCESS PRIO_USER P_ALL P_NOWAIT P_NOWAITO P_PGID P_PID P_WAIT RTLD_DEEPBIND " ++
       "RTLD_GLOBAL RTLD_LAZY RTLD_LOCAL RTLD_NODELETE RTLD_NOLOAD RTLD_NOW R_OK SCHED_BATCH " ++
       "SCHED_FIFO SCHED_IDLE SCHED_OTHER SCHED_RESET_ON_FORK SCHED_RR SEEK_CUR SEEK_DATA " ++
       "SEEK_END SEEK_HOLE SEEK_SET SPLICE_F_MORE SPLICE_F_MOVE SPLICE_F_NONBLOCK ST_APPEND " ++
       "ST_MANDLOCK ST_NOATIME ST_NODEV ST_NODIRATIME ST_NOEXEC ST_NOSUID ST_RDONLY " ++
       "ST_RELATIME ST_SYNCHRONOUS ST_WRITE TMP_MAX WCONTINUED WEXITED WNOHANG WNOWAIT " ++
       "WSTOPPED WUNTRACED W_OK XATTR_CREATE XATTR_REPLACE XATTR_SIZE_MAX X_OK"),
     ("builtins:list", "__all__"),
     ("builtins:set",
       "supports_dir_fd supports_effective_ids supports_fd supports_follow_symlinks"),
     ("builtins:str",
       "__doc__ __file__ __name__ __package__ curdir defpath devnull extsep linesep name " ++
       "pardir pathsep sep"),
     ("module", "abc=abc path=posixpath st=stat sys=sys"),
     ("os:_Environ", "environ environb")]),
   ("os.path",
    [("_frozen_importlib:ModuleSpec", "__spec__"),
     ("builtins:NoneType", "_varprog _varprogb altsep"),
     ("builtins:bool", "supports_unicode_filenames"),
     ("builtins:builtin_function_or_method", "_path_normpath"),
     ("builtins:dict", "__builtins__"),
     ("builtins:function",
       "_get_sep _joinrealpath abspath basename commonpath commonprefix dirname exists " ++
       "expanduser expandvars getatime getctime getmtime getsize isabs isdir isfile islink " ++
       "ismount join lexists normcase normpath realpath relpath samefile sameopenfile " ++
       "samestat split splitdrive splitext"),
     ("builtins:list", "__all__"),
     ("builtins:str",
       "__doc__ __file__ __name__ __package__ curdir defpath devnull extsep pardir pathsep " ++
       "sep"),
     ("module", "genericpath=genericpath os=os stat=stat sys=sys")]),
   ("pathlib",
    [("_frozen_importlib:ModuleSpec", "__spec__"),
     ("_frozen_importlib_external:SourceFileLoader", "__loader__"),
     ("builtins:NoneType", "__doc__"),
     ("builtins:builtin_function_or_method",
       "S_ISBLK S_ISCHR S_ISDIR S_ISFIFO S_ISLNK S_ISREG S_ISSOCK"),
     ("builtins:dict", "__builtins__"),
     ("builtins:function", "_ignore_error _is_wildcard_pattern urlquote_from_bytes"),
     ("builtins:int",
       "EBADF ELOOP ENOENT ENOTDIR _WINERROR_CANT_RESOLVE_FILENAME _WINERROR_INVALID_NAME " ++
       "_WINERROR_NOT_READY"),
     ("builtins:list", "__all__"),
     ("builtins:str", "__cached__ __file__ __name__ __package__"),
     ("builtins:tuple", "_IGNORED_ERRNOS _IGNORED_WINERRORS"),
     ("functools:_lru_cache_wrapper", "_make_selector"),
     ("module",
       "fnmatch=fnmatch functools=functools io=io ntpath=ntpath os=os posixpath=posixpath " ++
       "re=re sys=sys warnings=warnings"),
     ("pathlib:_PosixFlavour", "_posix_flavour"),
     ("pathlib:_WindowsFlavour", "_windows_flavour")]),
   ("sys",
    [("_frozen_importlib:ModuleSpec", "__spec__"),
     ("_io:TextIOWrapper", "__stderr__ __stdin__ __stdout__ stderr stdin stdout"),
     ("builtins:NoneType", "_home pycache_prefix"),
     ("builtins:bool", "dont_write_bytecode"),
     ("builtins:builtin_function_or_method",
       "__breakpointhook__ __displayhook__ __excepthook__ __unraisablehook__ " ++
       "_clear_type_cache _current_exceptions _current_frames _debugmallocstats _getframe " ++
       "_getquickenedcount addaudithook audit breakpointhook call_tracing displayhook " ++
       "exc_info excepthook exception exit get_asyncgen_hooks " ++
       "get_coroutine_origin_tracking_depth get_int_max_str_digits getallocatedblocks " ++
       "getdefaultencoding getdlopenflags getfilesystemencodeerrors getfilesystemencoding " ++
       "getprofile getrecursionlimit getrefcount getsizeof getswitchinterval gettrace intern " ++
       "is_finalizing set_asyncgen_hooks set_coroutine_origin_tracking_depth " ++
       "set_int_max_str_digits setdlopenflags setprofile setrecursionlimit setswitchinterval " ++
       "settrace unraisablehook"),
     ("builtins:dict", "_xoptions modules path_importer_cache"),
     ("builtins:frozenset", "stdlib_module_names"),
     ("builtins:function", "__interactivehook__"),
     ("builtins:int", "api_version hexversion maxsize maxunicode"),
     ("builtins:list", "argv meta_path orig_argv path path_hooks warnoptions"),
     ("builtins:str",
       "__doc__ __name__ __package__ _base_executable _framework _stdlib_dir abiflags " ++
       "base_exec_prefix base_prefix byteorder copyright exec_prefix executable " ++
       "float_repr_style platform platlibdir prefix version"),
     ("builtins:tuple", "_git builtin_module_names"),
     ("sys:flags", "flags"),
     ("sys:float_info", "float_info"),
     ("sys:hash_info", "hash_info"),
     ("sys:int_info", "int_info"),
     ("sys:thread_info", "thread_info"),
     ("sys:version_info", "version_info"),
     ("types:SimpleNamespace", "implementation")]),
   ("this",
    [("_frozen_importlib:ModuleSpec", "__spec__"),
     ("_frozen_importlib_external:SourceFileLoader", "__loader__"),
     ("builtins:NoneType", "__doc__"),
     ("builtins:dict", "__builtins__ d"),
     ("builtins:int", "c i"),
     ("builtins:str", "__cached__ __file__ __name__ __package__ s")]),
   ("types",
    [("_frozen_importlib:ModuleSpec", "__spec__"),
     ("_frozen_importlib_external:SourceFileLoader", "__loader__"),
     ("builtins:dict", "__builtins__"),
     ("builtins:function",
       "_calculate_meta _cell_factory coroutine new_class prepare_class resolve_bases"),
     ("builtins:list", "__all__"),
     ("builtins:str", "__cached__ __doc__ __file__ __name__ __package__")]),
   ("typing",
    [("_frozen_importlib:ModuleSpec", "__spec__"),
     ("_frozen_importlib_external:SourceFileLoader", "__loader__"),
     ("builtins:bool", "TYPE_CHECKING"),
     ("builtins:builtin_function_or_method", "_idfunc"),
     ("builtins:dict", "_PROTO_ALLOWLIST __builtins__"),
     ("builtins:frozenset", "_prohibited _special"),
     ("builtins:function",
       "NamedTuple TypedDict _allow_reckless_class_checks _caller _check_generic " ++
       "_collect_parameters _compare_args_orderless _deduplicate _deduplicate_unhashable " ++
       "_eval_type _flatten_literal_params _get_protocol_attrs _is_callable_members_only " ++
       "_is_dunder _is_param_expr _is_typevar_like _is_unpacked_typevartuple _make_nmtuple " ++
       "_namedtuple_mro_entries _no_init_or_replace_init _overload_dummy _remove_dups_flatten " ++
       "_should_unflatten_callable_args _strip_annotations _tp_cache _type_check " ++
       "_type_convert _type_repr _unpack_args _value_and_type_iter abstractmethod " ++
       "assert_never assert_type cast clear_overloads dataclass_transform final get_args " ++
       "get_origin get_overloads get_type_hints is_typeddict no_type_check " ++
       "no_type_check_decorator overload reveal_type runtime_checkable"),
     ("builtins:int", "_ASSERT_NEVER_REPR_MAX_LENGTH"),
     ("builtins:list", "EXCLUDED_ATTRIBUTES _SPECIAL_NAMES _TYPING_INTERNALS __all__ _cleanups"),
     ("builtins:str", "__cached__ __doc__ __file__ __name__ __package__"),
     ("builtins:tuple", "_allowed_types"),
     ("collections:defaultdict", "_overload_registry"),
     ("module",
       "collections=collections contextlib=contextlib functools=functools operator=operator " ++
       "stdlib_re=re sys=sys types=types warnings=warnings"),
     ("typing:TypeVar", "AnyStr CT_co KT T T_co T_contra VT VT_co V_co"),
     ("typing:_CallableType", "Callable"),
     ("typing:_LiteralSpecialForm", "Literal"),
     ("typing:_SpecialForm",
       "ClassVar Concatenate Final LiteralString Never NoReturn NotRequired Optional Required " ++
       "Self TypeAlias TypeGuard Union Unpack"),
     ("typing:_SpecialGenericAlias",
       "AbstractSet AsyncContextManager AsyncGenerator AsyncIterable AsyncIterator Awaitable " ++
       "ByteString ChainMap Collection Container ContextManager Coroutine Counter DefaultDict " ++
       "Deque Dict FrozenSet Generator Hashable ItemsView Iterable Iterator KeysView List " ++
       "Mapping MappingView Match MutableMapping MutableSequence MutableSet OrderedDict " ++
       "Pattern Reversible Sequence Set Sized Type ValuesView"),
     ("typing:_TupleType", "Tuple")]),
   ("uuid",
    [("_frozen_importlib:ModuleSpec", "__spec__"),
     ("_frozen_importlib_external:SourceFileLoader", "__loader__"),
     ("builtins:NoneType", "_UuidCreate _last_timestamp _node"),
     ("builtins:bool", "_AIX _LINUX _MAC_OMITS_LEADING_ZEROES"),
     ("builtins:builtin_function_or_method", "_generate_time_safe"),
     ("builtins:bytes", "_MAC_DELIM"),
     ("builtins:dict", "__builtins__"),
     ("builtins:function",
       "_arp_getnode _find_mac_near_keyword _find_mac_under_heading _get_command_stdout " ++
       "_ifconfig_getnode _ip_getnode _ipconfig_getnode _is_universal _lanscan_getnode " ++
       "_load_system_functions _netbios_getnode _netstat_getnode _parse_mac _random_getnode " ++
       "_simple_enum _unix_getnode _windll_getnode getnode uuid1 uuid3 uuid4 uuid5"),
     ("builtins:int", "_has_uuid_generate_time_safe"),
     ("builtins:list", "_GETTERS _OS_GETTERS"),
     ("builtins:str",
       "RESERVED_FUTURE RESERVED_MICROSOFT RESERVED_NCS RFC_4122 __author__ __cached__ " ++
       "__doc__ __file__ __name__ __package__ _platform_system"),
     ("module", "_uuid=_uuid os=os platform=platform sys=sys"),
     ("uuid:UUID", "NAMESPACE_DNS NAMESPACE_OID NAMESPACE_URL NAMESPACE_X500")])]

end KeyTree
