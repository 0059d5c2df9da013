import JsxDetect.Automaton.Packed

/-!
# Parsing automaton: lists of actions

The lists of actions other than a lone shift.  The packed rows refer to them by number.
-/

namespace JsxDetect.Automaton

/-- The lists 0 to 63. -/
def actionLists000 : List (List Action) := [
  [.shiftExtra], [.reduce 219 1 0], [.reduce 256 1 0], [.reduce 283 1 0], [.reduce 285 6 0],
  [.reduce 285 7 0], [.reduce 285 5 0], [.reduce 285 8 0], [.reduce 262 3 0], [.reduce 331 1 0],
  [.reduce 285 4 0], [.reduce 339 3 0], [.reduce 278 1 (-1)], [.reduce 343 2 0],
  [.reduce 283 1 0, .shift 32 false], [.reduce 283 1 0, .shift 1428 false], [.reduce 320 3 0],
  [.reduce 219 1 0, .reduce 283 1 0], [.reduce 219 1 0, .shift 199 false],
  [.reduce 219 1 0, .shift 4455 false], [.reduce 324 1 0], [.reduce 285 9 0], [.reduce 347 1 0],
  [.reduce 219 1 0, .reduce 278 1 (-1)], [.reduce 352 1 0], [.reduce 246 3 0], [.reduce 246 4 0],
  [.reduce 340 5 0], [.reduce 279 2 0], [.reduce 219 1 0, .reduce 331 1 0], [.reduce 239 4 0],
  [.reduce 219 1 0, .reduce 347 1 0], [.reduce 222 2 0], [.reduce 312 1 0], [.reduce 253 3 0],
  [.reduce 285 3 0], [.reduce 311 1 0], [.reduce 341 2 0], [.reduce 233 3 0], [.reduce 239 5 0],
  [.reduce 255 3 0], [.reduce 221 2 0], [.reduce 240 5 0], [.reduce 226 2 0], [.reduce 342 2 0],
  [.reduce 278 1 (-1), .shift 496 false], [.reduce 302 1 0],
  [.reduce 278 1 (-1), .shift 439 false], [.reduce 240 4 0], [.reduce 354 2 0],
  [.reduce 219 1 0, .reduce 352 1 0], [.reduce 255 4 0], [.reduce 225 2 0], [.reduce 321 2 0],
  [.reduce 236 4 (-1)], [.reduce 219 1 0, .shift 5428 false],
  [.reduce 219 1 0, .shift 1085 false], [.reduce 364 2 0], [.reduce 194 3 0], [.reduce 250 2 0],
  [.reduce 353 4 0], [.reduce 337 3 0], [.reduce 333 2 0], [.reduce 239 3 0]]

/-- The lists 64 to 127. -/
def actionLists064 : List (List Action) := [
  [.reduce 219 1 0, .shift 422 false], [.reduce 322 2 0], [.reduce 336 2 0], [.reduce 304 3 0],
  [.reduce 368 3 0], [.reduce 368 4 0], [.reduce 194 2 0], [.reduce 264 2 0], [.reduce 221 3 0],
  [.reduce 222 3 0], [.reduce 219 1 0, .shift 516 false], [.reduce 219 1 0, .shift 5576 false],
  [.reduce 219 1 0, .shift 495 false], [.reduce 219 1 0, .shift 337 false], [.reduce 175 4 0],
  [.reduce 175 5 0], [.reduce 278 1 (-1), .shift 441 false], [.reduce 221 2 0, .reduce 354 2 0],
  [.reduce 225 2 0, .reduce 364 2 0], [.reduce 348 2 0], [.reduce 364 3 0], [.reduce 364 4 0],
  [.reduce 330 5 0], [.reduce 267 2 0], [.reduce 219 1 0, .reduce 279 2 0], [.reduce 220 1 0],
  [.reduce 219 1 0, .shift 2642 false], [.reduce 283 1 0, .shift 1883 false],
  [.reduce 283 1 0, .shift 1647 false], [.reduce 283 1 0, .shift 1710 false],
  [.reduce 283 1 0, .shift 1817 false], [.reduce 283 1 0, .shift 2390 false],
  [.reduce 283 1 0, .reduce 375 2 0, .reduce 376 2 0], [.reduce 263 2 0], [.reduce 252 2 0],
  [.reduce 375 2 0], [.reduce 319 2 0], [.reduce 362 6 0], [.reduce 219 1 0, .shift 198 false],
  [.reduce 219 1 0, .shift 214 false], [.reduce 219 1 0, .shift 3364 false],
  [.reduce 219 1 0, .shift 3693 false], [.reduce 278 1 (-1), .shift 565 false], [.reduce 240 6 0],
  [.reduce 308 4 0], [.reduce 220 2 0], [.reduce 220 3 0], [.reduce 257 3 0], [.reduce 261 5 0],
  [.reduce 236 3 (-1)], [.reduce 267 2 0, .reduce 333 2 0], [.reduce 235 3 0],
  [.reduce 236 5 (-1)], [.reduce 315 3 0], [.reduce 315 4 0], [.reduce 285 2 0],
  [.reduce 362 7 0], [.reduce 362 8 0], [.reduce 180 1 0], [.reduce 218 1 0], [.reduce 242 4 0],
  [.reduce 243 5 0], [.reduce 244 5 0], [.reduce 245 6 0]]

/-- The lists 128 to 191. -/
def actionLists128 : List (List Action) := [
  [.reduce 266 2 0], [.reduce 266 3 0], [.reduce 194 4 0], [.reduce 271 2 0], [.reduce 271 3 0],
  [.reduce 271 4 0], [.reduce 353 3 0], [.reduce 353 5 0], [.reduce 366 2 0], [.reduce 365 2 0],
  [.reduce 334 2 0], [.reduce 366 3 0], [.reduce 334 4 0], [.reduce 335 7 0], [.reduce 224 3 0],
  [.reduce 375 2 0, .reduce 376 2 0], [.reduce 286 1 0], [.reduce 239 6 0], [.reduce 354 3 0],
  [.reduce 354 4 0], [.reduce 354 5 0], [.reduce 354 6 0], [.reduce 175 3 0], [.reduce 290 4 0],
  [.reduce 182 5 0], [.reduce 290 5 0], [.reduce 299 5 0], [.reduce 299 6 0],
  [.reduce 278 1 (-1), .shift 498 false], [.reduce 219 1 0, .shift 338 false], [.reduce 221 4 0],
  [.reduce 181 1 0], [.reduce 356 3 0], [.reduce 356 4 0], [.reduce 356 5 0], [.reduce 193 1 0],
  [.reduce 247 2 0], [.reduce 288 3 0], [.reduce 288 4 0], [.reduce 288 5 0], [.reduce 288 6 0],
  [.reduce 288 7 0], [.reduce 288 8 0], [.reduce 301 2 0], [.reduce 302 2 0], [.reduce 240 3 0],
  [.reduce 243 4 0], [.reduce 242 5 0], [.reduce 245 5 0], [.reduce 244 6 0], [.reduce 275 2 0],
  [.reduce 275 3 0], [.reduce 182 4 0], [.reduce 200 7 0], [.reduce 272 2 0],
  [.reduce 278 1 (-1), .shift 567 false], [.reduce 352 2 0], [.reduce 349 1 0], [.reduce 367 2 0],
  [.reduce 350 2 0], [.reduce 344 2 0], [.reduce 351 3 0], [.reduce 333 3 0], [.reduce 367 3 0]]

/-- The lists 192 to 255. -/
def actionLists192 : List (List Action) := [
  [.reduce 363 3 0], [.reduce 330 4 0], [.reduce 345 4 0], [.reduce 364 5 0], [.reduce 330 6 0],
  [.reduce 269 3 0], [.reduce 315 1 0], [.reduce 315 2 0], [.reduce 356 2 0], [.reduce 217 3 0],
  [.reduce 217 4 0], [.reduce 305 4 0], [.reduce 310 5 0], [.reduce 308 3 0], [.reduce 310 6 0],
  [.reduce 298 7 0], [.reduce 308 5 0], [.reduce 370 2 0], [.reduce 293 2 0], [.reduce 251 3 0],
  [.reduce 262 3 0, .shift 158 false], [.reduce 291 3 0], [.reduce 383 2 0],
  [.reduce 233 3 0, .reduce 304 3 0], [.reduce 236 2 (-1)], [.reduce 230 2 0], [.reduce 250 3 0],
  [.reduce 235 2 0], [.reduce 230 3 0], [.reduce 262 3 0, .shift 155 false],
  [.reduce 224 3 0, .reduce 255 3 0], [.reduce 225 2 0, .reduce 226 2 0],
  [.reduce 221 3 0, .reduce 222 3 0], [.reduce 221 2 0, .reduce 222 2 0], [.reduce 258 2 0],
  [.reduce 262 3 0, .shift 161 false], [.reduce 262 3 0, .shift 164 false],
  [.reduce 262 3 0, .shift 159 false], [.reduce 262 3 0, .shift 162 false],
  [.reduce 262 3 0, .shift 163 false], [.reduce 262 3 0, .shift 165 false],
  [.reduce 262 3 0, .shift 160 false], [.reduce 280 4 0], [.reduce 280 5 0], [.reduce 280 6 0],
  [.reduce 280 7 0], [.reduce 280 8 0], [.reduce 280 9 0], [.reduce 356 6 0], [.reduce 222 4 0],
  [.reduce 392 2 0], [.reduce 232 4 (-1)], [.reduce 285 10 0], [.reduce 377 1 0, .reduce 378 1 0],
  [.reduce 219 1 0, .reduce 283 1 0, .shift 199 false],
  [.reduce 219 1 0, .reduce 283 1 0, .shift 4455 false], [.reduce 196 3 0], [.reduce 198 7 0],
  [.reduce 198 8 0], [.reduce 375 1 0, .reduce 376 1 0],
  [.reduce 219 1 0, .reduce 278 1 (-1), .reduce 331 1 0], [.reduce 387 2 0], [.reduce 225 3 0],
  [.reduce 377 2 0]]

/-- The lists 256 to 319. -/
def actionLists256 : List (List Action) := [
  [.reduce 221 2 0, .reduce 222 2 0, .reduce 354 2 0],
  [.reduce 225 2 0, .reduce 226 2 0, .reduce 364 2 0], [.reduce 284 3 0],
  [.reduce 239 3 0, .reduce 239 4 0], [.reduce 239 4 0, .reduce 239 5 0], [.reduce 358 1 0],
  [.reduce 247 1 0], [.reduce 249 1 0], [.reduce 358 2 0], [.reduce 306 2 0], [.reduce 361 3 0],
  [.reduce 361 4 0], [.reduce 288 2 0], [.reduce 288 9 0], [.reduce 276 2 0], [.reduce 276 3 0],
  [.reduce 276 4 0], [.reduce 276 5 0], [.reduce 323 2 0], [.reduce 338 2 0], [.reduce 247 3 0],
  [.reduce 193 2 0], [.reduce 376 2 0], [.reduce 358 3 0], [.reduce 393 2 0], [.reduce 378 2 0],
  [.reduce 174 1 0], [.reduce 203 3 0], [.reduce 175 2 0], [.reduce 298 2 0], [.reduce 300 2 0],
  [.reduce 182 3 0], [.reduce 191 3 0], [.reduce 192 3 0], [.reduce 298 3 0], [.reduce 305 3 0],
  [.reduce 307 3 0], [.reduce 191 4 0], [.reduce 192 4 0], [.reduce 307 4 0], [.reduce 299 4 0],
  [.reduce 308 2 0], [.reduce 303 5 0], [.reduce 305 5 0], [.reduce 182 6 0], [.reduce 243 6 0],
  [.reduce 245 7 0], [.reduce 299 7 0], [.reduce 200 5 0], [.reduce 287 2 0], [.reduce 254 4 0],
  [.reduce 254 5 0], [.reduce 331 1 0, .shift 5163 false], [.reduce 370 2 0, .shift 4943 true],
  [.reduce 370 1 0], [.reduce 274 2 0], [.reduce 274 3 0], [.reduce 273 3 0], [.reduce 251 2 0],
  [.reduce 292 3 0], [.reduce 239 2 0], [.reduce 229 1 0], [.reduce 227 2 0], [.reduce 270 3 0]]

/-- The lists 320 to 383. -/
def actionLists320 : List (List Action) := [
  [.reduce 242 3 0], [.reduce 267 3 0], [.reduce 227 3 0], [.reduce 225 4 0], [.reduce 244 4 0],
  [.reduce 251 4 0], [.reduce 269 4 0], [.reduce 250 4 0], [.reduce 260 2 0],
  [.reduce 219 1 0, .reduce 315 1 0], [.reduce 315 5 0], [.reduce 280 3 0], [.reduce 280 10 0],
  [.reduce 387 3 0], [.reduce 358 1 0, .shift 3779 false], [.reduce 234 3 0], [.reduce 356 1 0],
  [.reduce 193 1 0, .shift 5154 false], [.reduce 226 3 0], [.reduce 226 4 0], [.reduce 237 1 0],
  [.reduce 265 2 0], [.reduce 391 2 0], [.reduce 395 2 0], [.reduce 232 3 (-1)],
  [.reduce 357 3 0], [.reduce 231 2 0], [.reduce 357 4 0], [.reduce 231 3 0], [.reduce 237 3 0],
  [.reduce 232 5 (-1)], [.reduce 357 5 0], [.reduce 313 2 0], [.reduce 373 2 0],
  [.reduce 314 3 0], [.reduce 390 2 0], [.reduce 306 3 0], [.reduce 241 1 0], [.reduce 282 3 0],
  [.reduce 193 3 0], [.reduce 388 2 0], [.reduce 396 2 0], [.reduce 371 2 0], [.reduce 372 2 0],
  [.reduce 289 4 0], [.reduce 397 2 0], [.reduce 289 5 0], [.reduce 289 6 0], [.reduce 183 1 0],
  [.reduce 187 3 0], [.reduce 187 4 0], [.recover], [.reduce 174 0 0], [.reduce 369 2 0],
  [.reduce 369 2 0, .shift 1258 true], [.reduce 369 2 0, .shift 658 true],
  [.reduce 369 2 0, .shift 1226 true], [.reduce 369 2 0, .shift 2730 true],
  [.reduce 369 2 0, .shift 1133 true], [.reduce 369 2 0, .shift 4 true],
  [.reduce 369 2 0, .shift 396 true], [.reduce 369 2 0, .shift 5043 true],
  [.reduce 369 2 0, .shift 3381 true], [.reduce 369 2 0, .shift 1134 true]]

/-- The lists 384 to 447. -/
def actionLists384 : List (List Action) := [
  [.reduce 369 2 0, .shift 3338 true], [.reduce 369 2 0, .shift 5044 true],
  [.reduce 369 2 0, .shift 5045 true], [.reduce 369 2 0, .shift 4436 true],
  [.reduce 369 2 0, .shift 197 true], [.reduce 369 2 0, .shift 730 true],
  [.reduce 369 2 0, .shift 397 true], [.reduce 369 2 0, .shift 5046 true],
  [.reduce 369 2 0, .shift 31 true], [.reduce 369 2 0, .shift 5047 true],
  [.reduce 369 2 0, .shift 4437 true], [.reduce 369 2 0, .shift 4438 true],
  [.reduce 369 2 0, .shift 5048 true], [.reduce 369 2 0, .shift 295 true],
  [.reduce 369 2 0, .shift 323 true], [.reduce 369 2 0, .shift 167 true],
  [.reduce 369 2 0, .shift 208 true], [.reduce 369 2 0, .shift 5049 true],
  [.reduce 369 2 0, .shift 4285 true], [.reduce 369 2 0, .shift 4286 true],
  [.reduce 369 2 0, .shift 3106 true], [.reduce 369 2 0, .shift 695 true],
  [.reduce 369 2 0, .shift 3382 true], [.reduce 369 2 0, .shift 113 true],
  [.reduce 369 2 0, .shift 398 true], [.reduce 369 2 0, .shift 5352 true],
  [.reduce 369 2 0, .shift 3339 true], [.reduce 369 2 0, .shift 399 true],
  [.reduce 369 2 0, .shift 3607 true], [.reduce 369 2 0, .shift 2086 true],
  [.reduce 369 2 0, .shift 5353 true], [.reduce 369 2 0, .shift 2087 true],
  [.reduce 369 2 0, .shift 4439 true], [.reduce 369 2 0, .shift 1259 true],
  [.reduce 369 2 0, .shift 672 true], [.reduce 369 2 0, .shift 1135 true],
  [.reduce 369 2 0, .shift 5354 true], [.reduce 369 2 0, .shift 5355 true],
  [.reduce 369 2 0, .shift 5356 true], [.reduce 214 2 0], [.reduce 214 3 0], [.reduce 213 3 0],
  [.reduce 213 4 0], [.reduce 174 2 0], [.reduce 377 1 0, .reduce 378 1 0, .shift 2786 false],
  [.reduce 377 1 0, .reduce 378 1 0, .shift 3056 false], [.reduce 378 1 0], [.reduce 377 1 0],
  [.reduce 203 2 0], [.reduce 210 1 0], [.reduce 202 4 0], [.reduce 215 2 0], [.reduce 215 5 0],
  [.reduce 215 6 0], [.reduce 189 1 0], [.reduce 205 2 0], [.reduce 206 2 0], [.reduce 207 2 0],
  [.reduce 208 2 0], [.reduce 190 2 0], [.reduce 211 3 (-1)], [.reduce 204 3 0],
  [.reduce 197 3 0], [.reduce 199 3 0]]

/-- The lists 448 to 511. -/
def actionLists448 : List (List Action) := [
  [.reduce 201 3 0], [.reduce 205 3 0], [.reduce 206 3 0], [.reduce 208 3 0], [.reduce 209 3 0],
  [.reduce 196 4 0], [.reduce 212 2 0], [.reduce 199 4 0], [.reduce 216 2 0], [.reduce 203 4 0],
  [.reduce 195 2 0], [.reduce 212 3 0], [.reduce 202 5 0], [.reduce 198 6 0], [.reduce 240 7 0],
  [.reduce 198 9 0], [.reduce 200 6 0], [.reduce 219 1 0, .shift 5510 false],
  [.reduce 219 1 0, .shift 1087 false], [.reduce 370 2 0, .shift 3135 false],
  [.reduce 219 1 0, .shift 223 false], [.reduce 278 1 (-1), .reduce 331 1 0],
  [.reduce 219 1 0, .reduce 331 1 0, .reduce 279 2 0],
  [.reduce 219 1 0, .reduce 352 1 0, .reduce 279 2 0], [.reduce 387 2 0, .shift 3027 true],
  [.reduce 387 2 0, .shift 2643 true], [.reduce 387 2 0, .shift 1399 true],
  [.reduce 387 2 0, .shift 331 true], [.reduce 387 2 0, .shift 4361 true],
  [.reduce 387 2 0, .shift 4362 true], [.reduce 387 2 0, .shift 2108 true],
  [.reduce 387 2 0, .shift 5398 true], [.reduce 387 2 0, .shift 2850 true],
  [.reduce 387 2 0, .shift 4980 true], [.reduce 387 2 0, .shift 1676 true],
  [.reduce 387 2 0, .shift 1886 true], [.reduce 387 2 0, .shift 2350 true],
  [.reduce 387 2 0, .shift 1677 true], [.reduce 387 2 0, .shift 1887 true],
  [.reduce 387 2 0, .shift 2359 true], [.reduce 387 2 0, .shift 2598 true],
  [.reduce 387 2 0, .shift 2644 true], [.reduce 263 2 0, .shift 158 false],
  [.reduce 252 2 0, .shift 158 false], [.reduce 264 2 0, .shift 158 false],
  [.reduce 263 2 0, .shift 155 false], [.reduce 252 2 0, .shift 155 false],
  [.reduce 264 2 0, .shift 155 false], [.reduce 258 2 0, .shift 522 false],
  [.reduce 263 2 0, .shift 161 false], [.reduce 252 2 0, .shift 161 false],
  [.reduce 264 2 0, .shift 161 false], [.reduce 296 1 0], [.reduce 223 3 0],
  [.reduce 263 2 0, .shift 164 false], [.reduce 252 2 0, .shift 164 false],
  [.reduce 264 2 0, .shift 164 false], [.reduce 281 3 0], [.reduce 315 1 0, .reduce 331 1 0],
  [.reduce 331 1 0, .reduce 315 2 0], [.reduce 219 1 0, .reduce 315 1 0, .reduce 331 1 0],
  [.reduce 222 2 0, .reduce 354 2 0], [.reduce 226 2 0, .reduce 364 2 0],
  [.reduce 263 2 0, .shift 159 false]]

/-- The lists 512 to 575. -/
def actionLists512 : List (List Action) := [
  [.reduce 252 2 0, .shift 159 false], [.reduce 264 2 0, .shift 159 false],
  [.reduce 263 2 0, .shift 162 false], [.reduce 252 2 0, .shift 162 false],
  [.reduce 264 2 0, .shift 162 false], [.reduce 376 1 0], [.reduce 225 3 0, .reduce 284 3 0],
  [.reduce 296 2 0], [.reduce 219 1 0, .reduce 347 1 0, .reduce 279 2 0],
  [.reduce 258 2 0, .shift 592 false], [.reduce 263 2 0, .shift 163 false],
  [.reduce 252 2 0, .shift 163 false], [.reduce 264 2 0, .shift 163 false],
  [.reduce 263 2 0, .shift 165 false], [.reduce 252 2 0, .shift 165 false],
  [.reduce 264 2 0, .shift 165 false], [.reduce 375 1 0], [.reduce 263 2 0, .shift 160 false],
  [.reduce 252 2 0, .shift 160 false], [.reduce 264 2 0, .shift 160 false],
  [.reduce 239 2 0, .reduce 239 3 0], [.reduce 239 5 0, .reduce 239 6 0], [.reduce 387 1 0],
  [.reduce 387 1 0, .shift 2545 true], [.reduce 387 2 0, .shift 2550 true], [.reduce 277 2 0],
  [.reduce 370 2 0, .shift 4980 true], [.reduce 285 1 0], [.reduce 331 1 0, .reduce 234 3 0],
  [.reduce 380 2 0, .shift 276 true], [.reduce 380 2 0, .shift 3114 true], [.reduce 380 2 0],
  [.reduce 380 2 0, .shift 3614 true], [.reduce 389 2 0, .shift 3406 true],
  [.reduce 389 2 0, .shift 282 true], [.reduce 389 2 0], [.reduce 316 2 0], [.reduce 317 2 0],
  [.reduce 318 2 0], [.reduce 313 1 0], [.reduce 361 2 0], [.reduce 383 2 0, .shift 444 true],
  [.reduce 370 2 0, .shift 4439 true], [.reduce 314 2 0], [.reduce 297 2 0],
  [.reduce 386 2 0, .shift 3626 true], [.reduce 386 2 0], [.reduce 386 2 0, .shift 327 true],
  [.reduce 329 1 0], [.reduce 360 2 0], [.reduce 374 2 0, .shift 5421 true], [.reduce 374 2 0],
  [.reduce 374 2 0, .shift 336 true], [.reduce 395 2 0, .shift 1391 true], [.reduce 232 2 (-1)],
  [.reduce 389 1 0], [.reduce 247 1 0, .shift 911 false], [.reduce 355 1 0], [.reduce 359 2 0],
  [.reduce 247 1 0, .shift 974 false], [.reduce 247 2 0, .shift 912 false], [.reduce 328 2 0],
  [.reduce 394 2 0], [.reduce 394 2 0, .shift 964 true]]

/-- The lists 576 to 639. -/
def actionLists576 : List (List Action) := [
  [.reduce 394 2 0, .shift 3833 true], [.reduce 247 2 0, .shift 982 false], [.reduce 346 3 0],
  [.reduce 362 4 0], [.reduce 238 2 0], [.reduce 362 5 0], [.reduce 238 3 0], [.reduce 361 5 0],
  [.reduce 356 7 0], [.reduce 247 1 0, .shift 915 false], [.reduce 247 1 0, .shift 1014 false],
  [.reduce 247 2 0, .shift 916 false], [.reduce 247 2 0, .shift 1016 false],
  [.reduce 247 1 0, .shift 925 false], [.reduce 247 1 0, .shift 1075 false],
  [.reduce 247 2 0, .shift 926 false], [.reduce 247 2 0, .shift 1078 false],
  [.reduce 377 2 0, .shift 261 true], [.reduce 384 2 0], [.reduce 384 2 0, .shift 4311 true],
  [.reduce 385 2 0], [.reduce 385 2 0, .shift 4312 true], [.reduce 295 2 0],
  [.reduce 383 2 0, .shift 409 true], [.reduce 373 2 0, .shift 3400 true], [.reduce 295 3 0],
  [.reduce 268 3 0], [.reduce 386 1 0], [.reduce 386 1 0, .reduce 394 1 0],
  [.reduce 390 2 0, .shift 340 true], [.reduce 391 2 0, .shift 965 true],
  [.reduce 392 2 0, .shift 4343 true], [.reduce 381 2 0, .shift 4355 true], [.reduce 381 2 0],
  [.reduce 382 2 0, .shift 4356 true], [.reduce 382 2 0], [.reduce 346 5 0], [.reduce 177 2 0],
  [.reduce 178 1 0], [.reduce 179 1 0], [.reduce 375 2 0, .shift 2347 true],
  [.reduce 376 2 0, .shift 2101 true], [.reduce 378 2 0, .shift 236 true],
  [.reduce 379 2 0, .shift 4492 true], [.reduce 379 2 0], [.reduce 184 2 0], [.reduce 178 2 0],
  [.reduce 177 3 0], [.reduce 388 2 0, .shift 210 true], [.reduce 297 3 0],
  [.reduce 396 2 0, .shift 4539 true], [.reduce 177 4 0], [.reduce 371 2 0, .shift 3344 true],
  [.reduce 372 2 0, .shift 3183 true], [.reduce 289 3 0], [.reduce 177 5 0],
  [.reduce 397 2 0, .shift 899 true], [.reduce 332 3 0], [.reduce 393 2 0, .shift 2636 true],
  [.reduce 294 6 0], [.reduce 289 7 0], [.reduce 228 1 0], [.reduce 187 1 0], [.reduce 187 2 0]]

/-- The lists 640 to 658. -/
def actionLists640 : List (List Action) := [
  [.reduce 188 2 0], [.reduce 313 3 0], [.reduce 178 3 0], [.reduce 314 4 0], [.reduce 325 2 0],
  [.reduce 327 2 0], [.reduce 358 4 0], [.reduce 309 2 0], [.reduce 178 4 0], [.reduce 326 3 0],
  [.accept], [.reduce 186 2 0], [.reduce 241 2 0], [.reduce 176 3 0], [.reduce 185 3 0],
  [.reduce 186 3 0], [.reduce 183 3 0], [.reduce 186 4 0], [.reduce 186 5 0]]

/-- All lists, in chunks. -/
def listsOfActions : List (List (List Action)) := [
  actionLists000, actionLists064, actionLists128, actionLists192, actionLists256,
  actionLists320, actionLists384, actionLists448, actionLists512, actionLists576, actionLists640]

/-- All lists, by number. -/
def actionLists : Chunked (List Action) := Chunked.ofLists listsOfActions

end JsxDetect.Automaton
