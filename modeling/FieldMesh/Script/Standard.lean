/-! # Standard modules

The interpreter brings modules of its own. They are found before any place is searched, they
leave no trace when they are imported, and they define none of the functions of user modules.
-/

namespace FieldMesh

namespace Standard

/-- The standard modules without parts. -/
def files : List String :=
  ["__future__", "__main__", "_io", "_thread", "abc", "aifc", "antigravity", "argparse", "array",
    "ast", "asynchat", "asyncore", "atexit", "audioop", "base64", "bdb", "binascii", "bisect",
    "builtins", "bz2", "cProfile", "calendar", "cgi", "cgitb", "chunk", "cmath", "cmd", "code",
    "codecs", "codeop", "colorsys", "compileall", "configparser", "contextlib", "contextvars",
    "copy", "copyreg", "crypt", "csv", "dataclasses", "datetime", "decimal", "difflib", "dis",
    "doctest", "enum", "errno", "faulthandler", "fcntl", "filecmp", "fileinput", "fnmatch",
    "fractions", "ftplib", "functools", "gc", "genericpath", "getopt", "getpass", "gettext",
    "glob", "graphlib", "grp", "gzip", "hashlib", "heapq", "hmac", "imaplib", "imghdr", "imp",
    "inspect", "io", "ipaddress", "itertools", "keyword", "linecache", "locale", "lzma",
    "mailbox", "mailcap", "marshal", "math", "mimetypes", "mmap", "modulefinder", "netrc",
    "nntplib", "ntpath", "nturl2path", "numbers", "opcode", "operator", "optparse", "os",
    "ossaudiodev", "pathlib", "pdb", "pickle", "pickletools", "pipes", "pkgutil", "platform",
    "plistlib", "poplib", "posix", "posixpath", "pprint", "profile", "pstats", "pty", "pwd",
    "py_compile", "pyclbr", "pydoc", "pyexpat", "queue", "quopri", "random", "readline",
    "reprlib", "resource", "rlcompleter", "runpy", "sched", "secrets", "select", "selectors",
    "shelve", "shlex", "shutil", "signal", "site", "smtpd", "smtplib", "sndhdr", "socket",
    "socketserver", "spwd", "sre_compile", "sre_constants", "sre_parse", "ssl", "stat",
    "statistics", "string", "stringprep", "struct", "subprocess", "sunau", "symtable", "sys",
    "sysconfig", "syslog", "tabnanny", "tarfile", "telnetlib", "tempfile", "termios", "textwrap",
    "this", "threading", "time", "timeit", "token", "tokenize", "trace", "traceback",
    "tracemalloc", "tty", "turtle", "types", "typing", "unicodedata", "uu", "uuid", "warnings",
    "wave", "weakref", "webbrowser", "xdrlib", "xxsubtype", "zipapp", "zipfile", "zipimport",
    "zlib"]

/-- The standard modules with parts, and the parts of each. -/
def packages : List (String × List String) :=
  [("asyncio", ["base_events", "base_futures", "base_subprocess", "base_tasks", "constants",
      "coroutines", "events", "exceptions", "format_helpers", "futures", "locks", "log",
      "mixins", "proactor_events", "protocols", "queues", "runners", "selector_events",
      "sslproto", "staggered", "streams", "subprocess", "taskgroups", "tasks", "threads",
      "timeouts", "transports", "trsock", "unix_events"]),
    ("collections", ["abc"]),
    ("concurrent", ["futures"]),
    ("concurrent.futures", ["process", "thread"]),
    ("ctypes", ["macholib", "util", "wintypes"]),
    ("ctypes.macholib", ["dyld", "dylib", "framework"]),
    ("curses", ["ascii", "has_key", "panel", "textpad"]),
    ("dbm", ["dumb", "ndbm"]),
    ("distutils", []),
    ("email", ["base64mime", "charset", "contentmanager", "encoders", "errors", "feedparser",
      "generator", "header", "headerregistry", "iterators", "message", "mime", "parser",
      "policy", "quoprimime", "utils"]),
    ("email.mime", ["application", "audio", "base", "image", "message", "multipart", "nonmultipart",
      "text"]),
    ("encodings", ["aliases", "ascii", "cp1252", "idna", "latin_1", "punycode", "utf_16", "utf_32",
      "utf_7", "utf_8", "utf_8_sig"]),
    ("ensurepip", []),
    ("html", ["entities", "parser"]),
    ("http", ["client", "cookiejar", "cookies", "server"]),
    ("idlelib", []),
    ("importlib", ["abc", "machinery", "metadata", "readers", "resources", "simple", "util"]),
    ("importlib.metadata", []),
    ("importlib.resources", ["abc", "readers", "simple"]),
    ("json", ["decoder", "encoder", "scanner", "tool"]),
    ("lib2to3", []),
    ("logging", ["config", "handlers"]),
    ("multiprocessing", ["connection", "context", "dummy", "forkserver", "heap", "managers", "pool",
      "popen_fork", "popen_forkserver", "popen_spawn_posix", "process", "queues", "reduction",
      "resource_sharer", "resource_tracker", "shared_memory", "sharedctypes", "spawn",
      "synchronize", "util"]),
    ("multiprocessing.dummy", ["connection"]),
    ("pydoc_data", []),
    ("re", []),
    ("sqlite3", ["dbapi2", "dump"]),
    ("tkinter", []),
    ("tomllib", []),
    ("turtledemo", []),
    ("unittest", ["async_case", "case", "loader", "main", "mock", "result", "runner", "signals",
      "suite", "util"]),
    ("urllib", ["error", "parse", "request", "response", "robotparser"]),
    ("venv", []),
    ("wsgiref", ["handlers", "headers", "simple_server", "types", "util", "validate"]),
    ("xml", ["dom", "etree", "parsers", "sax"]),
    ("xml.dom", ["NodeFilter", "domreg", "expatbuilder", "minicompat", "minidom", "pulldom",
      "xmlbuilder"]),
    ("xml.etree", ["ElementInclude", "ElementPath", "ElementTree", "cElementTree"]),
    ("xml.parsers", ["expat"]),
    ("xml.sax", ["expatreader", "handler", "saxutils", "xmlreader"]),
    ("xmlrpc", ["client", "server"]),
    ("zoneinfo", [])]

/-- A standard module without parts that can be imported by the name of a part all the same. -/
def path : String := "os.path"

def isPackage (name : String) : Bool := packages.any (·.1 == name)

def holds (name : String) : Bool :=
  files.contains name || isPackage name || name == path ||
    packages.any fun p => p.2.any fun part => p.1 ++ "." ++ part == name

example : holds "json.decoder" = true ∧ holds "json.numbers" = false := by decide +kernel

end Standard

end FieldMesh
