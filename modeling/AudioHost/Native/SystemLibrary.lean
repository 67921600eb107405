/-!
Libraries that the system brings along.

They can be opened by their names alone. They export no plugins, but their symbols are found
through every library that needs them.
-/

namespace AudioHost.SystemLibrary

/-- The names of libraries that every system has. -/
def names : List String :=
  ["libc.so.6", "libm.so.6", "libdl.so.2", "libpthread.so.0", "librt.so.1", "libutil.so.1",
    "libresolv.so.2", "libgcc_s.so.1", "ld-linux-x86-64.so.2"]

/-- Some well-known symbols of these libraries. -/
def symbols : List String :=
  ["malloc", "calloc", "realloc", "free", "exit", "abort", "atexit", "getenv", "setenv", "system",
    "open", "close", "read", "write", "fopen", "fclose", "fread", "fwrite", "printf", "fprintf",
    "snprintf", "puts", "strlen", "strcmp", "strcpy", "memcpy", "memmove", "memset", "qsort",
    "time", "sleep", "getpid", "fork", "dlopen", "dlsym", "dlclose", "dlerror"]

end AudioHost.SystemLibrary
