/-!
# Functions of the formula language

The functions that the analyses know, by what they are used for. Their names are in upper case; a
function may belong to several groups.
-/

namespace Tabular.Formula

/-- Functions that evaluate an expression for every row of a table. -/
def iterators : List String := [
  "SUMX", "AVERAGEX", "COUNTX", "COUNTAX", "MINX", "MAXX", "PRODUCTX", "RANKX", "CONCATENATEX",
  "FILTER", "ADDCOLUMNS", "SELECTCOLUMNS", "GENERATE", "GENERATEALL", "TOPN", "MEDIANX",
  "PERCENTILEX.INC", "PERCENTILEX.EXC", "STDEVX.P", "STDEVX.S", "VARX.P", "VARX.S"]

def filterModifiers : List String := [
  "CALCULATE", "CALCULATETABLE", "ALL", "ALLEXCEPT", "ALLSELECTED", "ALLNOBLANKROW",
  "REMOVEFILTERS", "KEEPFILTERS", "USERELATIONSHIP", "CROSSFILTER", "TREATAS"]

def timeFunctions : List String := [
  "SAMEPERIODLASTYEAR", "DATEADD", "DATESYTD", "DATESMTD", "DATESQTD", "TOTALYTD", "TOTALMTD",
  "TOTALQTD", "PARALLELPERIOD", "PREVIOUSYEAR", "PREVIOUSMONTH", "PREVIOUSQUARTER", "PREVIOUSDAY",
  "NEXTYEAR", "NEXTMONTH", "NEXTQUARTER", "NEXTDAY", "DATESBETWEEN", "DATESINPERIOD",
  "OPENINGBALANCEYEAR", "CLOSINGBALANCEYEAR", "OPENINGBALANCEMONTH", "CLOSINGBALANCEMONTH",
  "STARTOFYEAR", "ENDOFYEAR", "STARTOFMONTH", "ENDOFMONTH", "FIRSTDATE", "LASTDATE"]

/-- Functions that divide and allow for a zero divisor. -/
def ratioFunctions : List String := [
  "DIVIDE"]

def conditionals : List String := [
  "IF", "SWITCH", "IF.EAGER", "COALESCE"]

/-- Functions that reduce a column or a table to one value. -/
def aggregations : List String := [
  "SUM", "SUMX", "COUNT", "COUNTA", "COUNTAX", "COUNTX", "COUNTROWS", "COUNTBLANK", "DISTINCTCOUNT",
  "DISTINCTCOUNTNOBLANK", "AVERAGE", "AVERAGEA", "AVERAGEX", "MIN", "MINA", "MINX", "MAX", "MAXA",
  "MAXX", "MEDIAN", "MEDIANX", "PRODUCT", "PRODUCTX"]

def textFunctions : List String := [
  "CONCATENATE", "CONCATENATEX", "FORMAT", "LEFT", "RIGHT", "MID", "LEN", "UPPER", "LOWER", "TRIM",
  "SUBSTITUTE", "REPLACE", "SEARCH", "FIND", "REPT", "UNICHAR", "COMBINEVALUES", "FIXED", "VALUE"]

def otherFunctions : List String := [
  "VALUES", "DISTINCT", "RELATED", "RELATEDTABLE", "LOOKUPVALUE", "SELECTEDVALUE", "HASONEVALUE",
  "HASONEFILTER", "ISFILTERED", "ISCROSSFILTERED", "ISBLANK", "ISERROR", "IFERROR", "BLANK",
  "EARLIER", "EARLIEST", "SUMMARIZE", "SUMMARIZECOLUMNS", "ROW", "UNION", "INTERSECT", "EXCEPT",
  "NATURALINNERJOIN", "NATURALLEFTOUTERJOIN", "CROSSJOIN", "DATATABLE", "CALENDAR", "CALENDARAUTO",
  "DATE", "YEAR", "MONTH", "DAY", "TODAY", "NOW", "EOMONTH", "EDATE", "DATEDIFF", "WEEKDAY",
  "WEEKNUM", "ROUND", "ROUNDUP", "ROUNDDOWN", "INT", "ABS", "MOD", "POWER", "SQRT", "AND", "OR",
  "NOT", "TRUE", "FALSE", "CONTAINS", "CONTAINSSTRING", "USERPRINCIPALNAME", "PATH", "PATHITEM",
  "RANK.EQ", "INDEX", "OFFSET", "WINDOW"]

def knownFunctions : List String :=
  iterators ++ filterModifiers ++ timeFunctions ++ ratioFunctions ++ conditionals ++ aggregations ++
    textFunctions ++ otherFunctions

end Tabular.Formula
